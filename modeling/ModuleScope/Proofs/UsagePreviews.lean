import Mathlib
import ModuleScope.Proofs.OffsetOrder
import ModuleScope.Proofs.SourceOrder

/-!
Usages point at their symbol. Where identifiers hold no line end, their ranges lie on one line and lead
back to their text. The preview is that line without the blanks at its ends, and shows the symbol whole
unless these blanks reach into it: a name may begin or end with U+0085, which is a blank.
-/
namespace ModuleScope

open TypeScript hiding isBlank
open Text Utf8

namespace Text

variable {drop : Char → Bool} {left text right : List Char}

theorem dropWhile_around
    (kept : (∃ c ∈ left, drop c = false) ∨ ∃ c ∈ text.head?, drop c = false) (right : List Char) :
    ∃ rest, (left ++ text ++ right).dropWhile drop = rest ++ text ++ right := by
  rw [List.append_assoc, List.dropWhile_append]
  split
  · next nothing =>
    have dropped : ∀ c ∈ left, drop c = true := by simpa using nothing
    rcases kept with ⟨c, member, other⟩ | ⟨c, first, other⟩
    · rw [dropped c member] at other
      cases other
    · cases text with
      | nil => cases first
      | cons d others =>
        obtain rfl : d = c := by simpa using first
        exact ⟨[], by simp [other]⟩
  · exact ⟨left.dropWhile drop, (List.append_assoc ..).symm⟩

theorem trimEnd_keeps
    (kept : (∃ c ∈ right, drop c = false) ∨ ∃ c ∈ text.getLast?, drop c = false) (left : List Char) :
    ∃ rest, trimEnd drop (left ++ text ++ right) = left ++ text ++ rest := by
  have backwards : (∃ c ∈ right.reverse, drop c = false) ∨ ∃ c ∈ text.reverse.head?, drop c = false := by
    simpa using kept
  obtain ⟨rest, reversed⟩ := dropWhile_around backwards left.reverse
  refine ⟨rest.reverse, ?_⟩
  have turned : (left ++ text ++ right).reverse = right.reverse ++ text.reverse ++ left.reverse := by simp
  rw [trimEnd, turned, reversed]
  simp

/-- Trimming a text keeps a part of it that it cannot reach from either side. -/
theorem infix_trimBoth (starts : (∃ c ∈ left, drop c = false) ∨ ∃ c ∈ text.head?, drop c = false)
    (ends : (∃ c ∈ right, drop c = false) ∨ ∃ c ∈ text.getLast?, drop c = false) :
    text <:+: trimBoth drop (left ++ text ++ right) := by
  obtain ⟨before, front⟩ := dropWhile_around starts right
  obtain ⟨after, whole⟩ := trimEnd_keeps ends before
  rw [trimBoth, front, whole]
  exact ⟨before, after, rfl⟩

theorem exists_head_dropWhile (present : text.dropWhile drop ≠ []) :
    ∃ c ∈ (text.dropWhile drop).head?, drop c = false := by
  obtain ⟨c, rest, left⟩ := List.exists_cons_of_ne_nil present
  have other := List.head?_dropWhile_not drop text
  rw [left] at other ⊢
  exact ⟨c, rfl, other⟩

theorem trimBoth_infix (drop : Char → Bool) (left text right : List Char) :
    trimBoth drop text <:+: trimBoth drop (left ++ text ++ right) := by
  by_cases empty : trimBoth drop text = []
  · rw [empty]
    exact List.nil_infix
  · obtain ⟨dropped, front⟩ := text.dropWhile_suffix drop
    obtain ⟨cut, back⟩ := isPrefix_trimEnd drop (text.dropWhile drop)
    rw [← trimBoth] at back
    have parts : left ++ text ++ right = (left ++ dropped) ++ trimBoth drop text ++ (cut ++ right) := by
      have whole : dropped ++ (trimBoth drop text ++ cut) = text := by rw [back, front]
      nth_rewrite 1 [← whole]
      simp
    have begins : text.dropWhile drop ≠ [] := by
      rw [← back]
      exact List.append_ne_nil_of_left_ne_nil empty cut
    have ends : (text.dropWhile drop).reverse.dropWhile drop ≠ [] := by
      simpa [trimBoth, trimEnd] using empty
    rw [parts]
    apply infix_trimBoth
    · right
      obtain ⟨c, first, other⟩ := exists_head_dropWhile begins
      rw [← back, List.head?_append_of_ne_nil _ empty] at first
      exact ⟨c, first, other⟩
    · right
      obtain ⟨c, last, other⟩ := exists_head_dropWhile ends
      exact ⟨c, by rwa [trimBoth, trimEnd, List.getLast?_reverse], other⟩

end Text

namespace Code

variable {code : Code} {symbol : String} {site : Site}

def Unbroken (code : Code) : Prop :=
  ∀ node, code.tree.Holds node → node.kind.isIdentifier = true →
    ∀ byte ∈ code.bytesOf node, byte ≠ 10 ∧ byte ≠ 13

theorem unbroken_iff : code.Unbroken ↔ code.tree.all (fun node =>
    !node.kind.isIdentifier || (code.bytesOf node).all fun byte => byte != 10 && byte != 13) = true := by
  simp only [Tree.all_iff, Bool.or_eq_true, Bool.not_eq_true', List.all_eq_true, ← Bool.not_eq_true,
    ← imp_iff_not_or, Bool.and_eq_true, bne_iff_ne, Unbroken]

instance (code : Code) : Decidable code.Unbroken := decidable_of_iff _ unbroken_iff.symm

theorem Spells.lineEnd_not_mem (spells : code.Spells symbol site) (unbroken : code.Unbroken) :
    '\n' ∉ symbol.toList ∧ '\r' ∉ symbol.toList := by
  have bytes := unbroken site.node spells.leads.holds spells.identifier
  rw [spells.bytes] at bytes
  constructor <;> intro member
  · exact (bytes 10 (List.mem_flatMap.mpr ⟨'\n', member, by decide⟩)).1 rfl
  · exact (bytes 13 (List.mem_flatMap.mpr ⟨'\r', member, by decide⟩)).2 rfl

/-- Where an identifier stands: between two parts of a line, which has no carriage returns at its end. -/
theorem Spells.exists_line (spells : code.Spells symbol site) (parsed : code.document.code? = some code)
    (proper : code.tree.nested = true) (unbroken : code.Unbroken) (present : symbol.toList ≠ []) :
    ∃ number before after, code.document.hasLine (number : Nat) = true ∧
      code.document.lineText number = before ++ symbol.toList ++ after ∧
      code.rangeOf site.node =
        ⟨⟨number, before.length⟩, ⟨number, (before ++ symbol.toList).length⟩⟩ ∧
      code.document.textOf (code.rangeOf site.node) = symbol := by
  have bounded := stop_le_of_holds parsed proper spells.leads.holds
  obtain ⟨single, unreturned⟩ := spells.lineEnd_not_mem unbroken
  obtain ⟨left, right, parts, start, stop⟩ :=
    Document.exists_parts_of_slice present bounded spells.bytes
  obtain ⟨above, before, outer, below, rfl, rfl, line⟩ := Document.exists_lineBetween parts single
  have trimmed := trimEnd_around present unreturned before outer
  rw [encode_append, List.length_append] at start stop
  obtain ⟨first, last, bytes⟩ := line.offsetAt_rangeOf trimmed start (stop.trans (by rw [start]))
  refine ⟨above.count '\n', before, trimEnd (· == '\r') outer, line.hasLine, ?_, ?_, ?_⟩
  · rw [line.lineText_eq, trimmed]
  · rw [rangeOf, start, stop, line.rangeOf_eq]
  · rw [Document.textOf, rangeOf, first, last, bytes, decodeLossy_encode, String.ofList_toList]

end Code

/-- If spans are nested and no identifier holds a line end, the reported range of a symbol that is not empty
lies on one line, stops after it starts and holds the symbol, and the preview is the trimmed line. It shows
the symbol without the blanks at the symbol's own ends, and the whole symbol if on either side the symbol
or what stands there on the line has some other character. -/
theorem Document.usages_point_at_symbol (document : Document)
    (proper : ∀ code, document.code? = some code → code.tree.nested = true)
    (unbroken : ∀ code, document.code? = some code → code.Unbroken) (symbol : String)
    (named : symbol ≠ "") (container moduleName : Option String) (usage : Usage)
    (reported : usage ∈ document.usages symbol container moduleName) :
    usage.range.start.line = usage.range.stop.line ∧ usage.range.start < usage.range.stop ∧
      document.textOf usage.range = symbol ∧
      ∃ before after, document.lineAt usage.range.start.line =
          .ok (String.ofList (before ++ symbol.toList ++ after)) ∧
        usage.range.start.character = before.length ∧
        usage.preview = trim (String.ofList (before ++ symbol.toList ++ after)) ∧
        trimBoth isBlank symbol.toList <:+: usage.preview.toList ∧
        ((∃ c ∈ before, isBlank c = false) ∨ (∃ c ∈ symbol.toList.head?, isBlank c = false) →
          (∃ c ∈ after, isBlank c = false) ∨ (∃ c ∈ symbol.toList.getLast?, isBlank c = false) →
          symbol.toList <:+: usage.preview.toList) := by
  obtain ⟨code, site, parsed, mentions, rfl⟩ := Document.mem_usages_iff.mp reported
  obtain ⟨rfl, _⟩ := document.code?_eq parsed
  have characters : symbol.toList ≠ [] := fun empty => named (String.toList_inj.mp empty)
  obtain ⟨number, before, after, existing, line, range, text⟩ :=
    mentions.spells.exists_line parsed (proper code parsed) (unbroken code parsed) characters
  have present := List.length_pos_iff.mpr characters
  have preview : (code.usage moduleName site.node).preview =
      String.ofList (trimBoth isBlank (before ++ symbol.toList ++ after)) := by
    rw [Code.usage, range, ← line]
    rfl
  have same : (code.usage moduleName site.node).range = code.rangeOf site.node := rfl
  rw [preview, same, text, range, String.toList_ofList]
  refine ⟨rfl, Or.inr ⟨rfl, ?_⟩, rfl, before, after, ?_, rfl, ?_, ?_, infix_trimBoth⟩
  · rw [List.length_append]
    dsimp only
    omega
  · rw [Document.lineAt, if_pos existing, Int.toNat_natCast, line]
  · rw [trim, String.toList_ofList]
  · exact trimBoth_infix isBlank before symbol.toList after

def Code.blankEnded : Code :=
  ⟨.ofText "/w/a.ts" text, parse .typescript text.toList⟩
where
  text : String := "é(\r\n  foo\u0085.bar);\r\n"

/-- Only what stands before the name is trimmed, so the preview shows it with its blank. -/
theorem Document.usages_point_at_symbol_blankEnded :
    let document := Code.blankEnded.document
    let usage : Usage := ⟨"/w/a.ts", ⟨⟨1, 2⟩, ⟨1, 6⟩⟩, "foo\u0085.bar);", none⟩
    usage ∈ document.usages "foo\u0085" none none ∧ usage.range.start < usage.range.stop ∧
      document.textOf usage.range = "foo\u0085" ∧ "foo\u0085".toList <:+: usage.preview.toList := by
  intro document usage
  have parsed : document.code? = some Code.blankEnded :=
    Document.code?_ofText (by decide) Code.blankEnded.text
  have computed : usage ∈ document.usages "foo\u0085" none none ∧
      Code.blankEnded.tree.nested = true ∧ Code.blankEnded.Unbroken := by
    rw [Document.usages_eq_occurrences parsed, Code.occurrences, Code.walk_eq]
    decide +kernel
  obtain ⟨reported, proper⟩ := computed
  have read (code : Code) (other : document.code? = some code) :
      code.tree.nested = true ∧ code.Unbroken := by
    obtain rfl := Option.some.inj (parsed.symm.trans other)
    exact proper
  obtain ⟨_, order, text, before, after, line, column, _, _, whole⟩ :=
    Document.usages_point_at_symbol document (fun code other => (read code other).1)
      (fun code other => (read code other).2) "foo\u0085" (by decide) none none usage reported
  refine ⟨reported, order, text, whole (Or.inr ⟨'f', rfl, by decide⟩) (Or.inl ⟨'.', ?_, by decide⟩)⟩
  have written : document.lineAt 1 = .ok (String.ofList "  foo\u0085.bar);".toList) := by decide
  have same := String.ofList_injective (Except.ok.inj (line.symm.trans written))
  have tail := congrArg (List.drop 6) same
  have length : (before ++ "foo\u0085".toList).length = 6 := by
    rw [List.length_append, ← Nat.cast_inj.mp column]
    rfl
  rw [← length, List.drop_left] at tail
  rw [tail, length]
  decide

def Code.blankEndedLine : Code :=
  ⟨.ofText "/w/a.ts" text, parse .typescript text.toList⟩
where
  text : String := "foo\u0085"

/-- The preview of a usage does not show a name whose last character is trimmed from the line. -/
theorem Document.usage_preview_without_symbol :
    ∃ usage ∈ Code.blankEndedLine.document.usages "foo\u0085" none none,
      usage.range = ⟨⟨0, 0⟩, ⟨0, 4⟩⟩ ∧ usage.preview = trim "foo\u0085" ∧
        ¬ "foo\u0085".toList <:+: usage.preview.toList := by
  have parsed : Code.blankEndedLine.document.code? = some Code.blankEndedLine :=
    Document.code?_ofText (by decide) Code.blankEndedLine.text
  refine ⟨⟨"/w/a.ts", ⟨⟨0, 0⟩, ⟨0, 4⟩⟩, "foo", none⟩, ?_, rfl, by decide, by decide⟩
  rw [Document.usages_eq_occurrences parsed, Code.occurrences, Code.walk_eq]
  decide +kernel

end ModuleScope
