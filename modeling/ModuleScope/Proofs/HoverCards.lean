import Mathlib
import ModuleScope.Proofs.EscapedText
import ModuleScope.Report.Hover
import ModuleScope.Text.Style

/-!
What hover cards show. A line of a card is fixed text with data in it, which are escaped and most of which
stand between a style's tags. No line fails to be shown. A datum is shown as it is unless it holds controls,
a backslash of it stands before a bracket that begins no tag, or it ends in backslashes: more than one of
them before a closing tag, or a single one that is doubled where no tag follows.
-/
namespace ModuleScope

open Text

namespace Hover

inductive CardStyle where
  | bold
  | italic
  | cyan
  | magenta
  | dim

def CardStyle.name : CardStyle → String
  | bold => "bold"
  | italic => "italic"
  | cyan => "cyan"
  | magenta => "magenta"
  | dim => "dim"

/-- A datum of a card, the style of the tags around it, and the fixed text after it. -/
structure CardPart where
  style : Option CardStyle
  datum : String
  after : String

/-- A line of a card: the fixed text before its first datum, and its data. -/
structure CardLine where
  lead : String
  parts : List CardPart

namespace CardPart

def markup (part : CardPart) : String :=
  match part.style with
  | some style => s!"[{style.name}]{escape part.datum}[/{style.name}]{part.after}"
  | none => escape part.datum ++ part.after

def plain (part : CardPart) : String := part.datum ++ part.after

/-- The datum keeps every backslash: none stands before a bracket that begins no tag, and those at its
end are at most one before a closing tag, and not just one elsewhere. -/
def Spelled (part : CardPart) : Prop :=
  ¬ HasLooseEscape part.datum.toList ∧
    if part.style.isSome then endingBackslashes part.datum.toList ≤ 1
    else endingBackslashes part.datum.toList ≠ 1

/-- The datum keeps every backslash and has no controls, which are never shown. -/
def Kept (part : CardPart) : Prop := part.Spelled ∧ ∀ c ∈ part.datum.toList, isControl c = false

def slashes (part : CardPart) : Nat :=
  if endingBackslashes part.datum.toList = 1 then 2 else endingBackslashes part.datum.toList

def front (part : CardPart) : List MarkupPiece := markupPieces (beforeBackslashes part.datum.toList)

def pieces (part : CardPart) : List MarkupPiece :=
  match part.style with
  | some style =>
    .tag 0 style.name.toList :: (part.front.map .guarded ++
      .tag part.slashes ('/' :: style.name.toList) :: part.after.toList.map .literal)
  | none =>
    part.front.map .guarded ++ (List.replicate part.slashes (.literal '\\') ++
      part.after.toList.map .literal)

/-- What becomes of the backslashes at the end of a datum and of the tag after them. -/
def ending (part : CardPart) : List Char :=
  match part.style with
  | some style =>
    List.replicate (part.slashes / 2) '\\' ++
      if part.slashes % 2 = 1 then '[' :: '/' :: (style.name.toList ++ [']']) else []
  | none => List.replicate part.slashes '\\'

def shown (part : CardPart) : List Char := visible part.front ++ (part.ending ++ part.after.toList)

end CardPart

/-- Parts fit together: the text after each is plain and keeps it apart from the next one, and what is
escaped outside of tags is followed by a tag, if by anything. -/
def Fit : List CardPart → Prop
  | [] => True
  | part :: rest =>
    (∀ c ∈ part.after.toList, IsPlain c) ∧
    (rest ≠ [] ∨ part.style.isNone → part.after ≠ "") ∧
    (part.style.isNone → ∀ next ∈ rest.head?, next.style.isSome) ∧ Fit rest

namespace CardStyle

variable (style : CardStyle) (opened : List OpenTag)

theorem isTagBody_name : IsTagBody style.name.toList ∧ IsTagBody ('/' :: style.name.toList) := by
  cases style <;> decide

theorem normalForm_name : Style.normalForm style.name.toList = .ok style.name := by
  cases style <;> decide

theorem shown?_opening (rest : List MarkupPiece) :
    shown? tagRules opened (.tag 0 style.name.toList :: rest) =
      shown? tagRules (⟨style.name, ""⟩ :: opened) rest := by
  have applied : opened? tagRules opened style.name.toList = some (⟨style.name, ""⟩ :: opened) := by
    cases style <;> rfl
  simp [shown?_tag, applied]

theorem opened?_closing :
    opened? tagRules (⟨style.name, ""⟩ :: opened) ('/' :: style.name.toList) = some opened := by
  have key : ('/' :: style.name.toList).takeWhile (· != '=') = '/' :: style.name.toList := by
    cases style <;> decide
  have bare : trimBoth isBlank style.name.toList = style.name.toList := by
    cases style <;> decide
  have present : style.name.toList.isEmpty = false := by
    cases style <;> decide
  have closes : OpenTag.close tagRules ⟨style.name, ""⟩ = .ok () := by
    simp [OpenTag.close]
  have form : tagRules.normalForm style.name.toList = .ok style.name := style.normalForm_name
  simp [opened?, applyTag, key, bare, present, form, closes, Except.bind, Except.map, Except.toOption]

end CardStyle

/-- Backslashes are shown unless a bracket follows that begins no tag. -/
theorem shown?_slashes (opened : List OpenTag) (count : Nat) {rest : List MarkupPiece}
    (next : rest.head? ≠ some (.literal '[')) :
    shown? tagRules opened (List.replicate count (.literal '\\') ++ rest) =
      (shown? tagRules opened rest).map (List.replicate count '\\' ++ ·) := by
  induction count with
  | zero => simp
  | succ count ih =>
    have kept : (List.replicate count (MarkupPiece.literal '\\') ++ rest).head? ≠ some (.literal '[') := by
      cases count with
      | zero => exact next
      | succ count => simp [List.replicate_succ]
    rw [List.replicate_succ, List.cons_append, shown?_literal, ih, Option.map_map]
    simp only [kept, and_false, if_false]
    rfl

theorem replicate_append_ne {few many : Nat} (fewer : few < many) {left right : List Char}
    (next : left.head? ≠ some '\\') :
    List.replicate few '\\' ++ left ≠ List.replicate many '\\' ++ right := by
  intro same
  obtain ⟨more, rfl⟩ := Nat.exists_eq_add_of_lt fewer
  rw [Nat.add_assoc, List.replicate_add, List.append_assoc, List.append_cancel_left_eq] at same
  exact next (by rw [same]; rfl)

namespace CardPart

variable {part : CardPart}

theorem written_pieces (part : CardPart) : written part.pieces = part.markup.toList := by
  rcases part with ⟨_ | style, datum, after⟩
  · simp [pieces, markup, toList_escape, front, slashes]
  · simp [pieces, markup, toList_escape, front, slashes, toString]

theorem getLast?_front (part : CardPart) : part.front.getLast? ≠ some (.literal '\\') :=
  getLast?_markupPieces_before part.datum.toList

section Reading

variable {rest : List MarkupPiece} (plain : ∀ c ∈ part.after.toList, IsPlain c)
include plain

theorem exists_first (spaced : part.after ≠ "") :
    ∃ c text, part.after.toList = c :: text ∧ IsPlain c := by
  obtain ⟨c, text, first⟩ := List.exists_cons_of_ne_nil (mt String.toList_eq_nil_iff.mp spaced)
  exact ⟨c, text, first, plain c (by rw [first]; exact List.mem_cons_self)⟩

theorem parsed_pieces (spaced : part.style.isNone → part.after ≠ "")
    (opens : part.style.isNone → upToBracket (written rest) = none) (parsed : Parsed rest) :
    Parsed (part.pieces ++ rest) := by
  have after : Parsed (part.after.toList.map .literal ++ rest) :=
    parsed.literals fun c member => ⟨(plain c member).unopened, (plain c member).unescaped⟩
  have front : Parsed (part.front.map .guarded) := (parsed_markupPieces _).guarded
  cases styled : part.style with
  | some style =>
    have tags := style.isTagBody_name
    have closing : Parsed (.tag part.slashes ('/' :: style.name.toList) ::
        (part.after.toList.map .literal ++ rest)) := .tag tags.2 after
    have inner := front.append closing (by rw [written_tag]; exact upToBracket_backslashes _ _)
      fun last => absurd last (getLast?_map_guarded part.getLast?_front)
    rw [pieces, styled]
    simpa using Parsed.tag tags.1 inner
  | none =>
    obtain ⟨c, text, first, _⟩ := exists_first plain (spaced (by rw [styled]; rfl))
    have begins : beginsWithTag (part.after.toList.map .literal ++ rest) = false := by
      rw [first]
      rfl
    have ended := after.backslashes begins part.slashes
    have unclosed : upToBracket (written (List.replicate part.slashes (.literal '\\') ++
        (part.after.toList.map .literal ++ rest))) = none := by
      rw [written_append, written_append, written_literals, written_replicate, ← List.append_assoc,
        upToBracket_append (opens (by rw [styled]; rfl)), upToBracket_append (upToBracket_of_plain plain),
        upToBracket_slashes]
    have inner := front.append ended unclosed fun _ => by
      cases part.slashes with
      | zero => exact begins
      | succ count => rfl
    rw [pieces, styled]
    simpa using inner

/-- A part shows the same whatever tags are open, though it may leave its own open. -/
theorem shown?_pieces (spaced : part.style.isNone → part.after ≠ "") (opened : List OpenTag) :
    ∃ opened', shown? tagRules opened (part.pieces ++ rest) =
      (shown? tagRules opened' rest).map (part.shown ++ ·) := by
  cases styled : part.style with
  | some style =>
    rw [pieces, styled]
    simp only [List.cons_append, List.append_assoc, style.shown?_opening,
      shown?_guarded _ _ _ part.getLast?_front]
    by_cases odd : part.slashes % 2 = 1
    · refine ⟨⟨style.name, ""⟩ :: opened, ?_⟩
      rw [shown?_tag, if_pos odd, shown?_plain _ _ _ plain]
      simp [shown, ending, styled, odd, Function.comp_def]
    · refine ⟨opened, ?_⟩
      rw [shown?_tag, if_neg odd, style.opened?_closing, Option.bind_some, shown?_plain _ _ _ plain]
      simp [shown, ending, styled, odd, Function.comp_def]
  | none =>
    obtain ⟨c, text, first, plainFirst⟩ := exists_first plain (spaced (by rw [styled]; rfl))
    have next : (part.after.toList.map MarkupPiece.literal ++ rest).head? ≠ some (.literal '[') := by
      rw [first]
      simpa using plainFirst.unopened
    refine ⟨opened, ?_⟩
    rw [pieces, styled]
    simp only [List.append_assoc, shown?_guarded _ _ _ part.getLast?_front, shown?_slashes _ _ next,
      shown?_plain _ _ _ plain]
    simp [shown, ending, styled, Function.comp_def]

end Reading

theorem visible_front (tight : ¬ HasLooseEscape part.datum.toList) :
    visible part.front = beforeBackslashes part.datum.toList := by
  rw [front, visible_eq_written (mt (looseIn_before _).mp tight), written_markupPieces]

theorem toList_plain (part : CardPart) :
    part.plain.toList = beforeBackslashes part.datum.toList ++
      (List.replicate (endingBackslashes part.datum.toList) '\\' ++ part.after.toList) := by
  rw [plain, String.toList_append, ← List.append_assoc, beforeBackslashes_append]

theorem Spelled.shown_eq (spelled : part.Spelled) : part.shown = part.plain.toList := by
  obtain ⟨tight, ended⟩ := spelled
  have same : part.ending = List.replicate (endingBackslashes part.datum.toList) '\\' := by
    cases styled : part.style with
    | none =>
      rw [styled] at ended
      rw [ending, styled, slashes, if_neg ended]
    | some style =>
      rw [styled] at ended
      rcases Nat.le_one_iff_eq_zero_or_eq_one.mp ended with count | count <;>
        simp [ending, styled, slashes, count]
  rw [shown, visible_front tight, same, toList_plain]

/-- A part that is not shown as it is differs at the first backslash that is lost or added. -/
theorem shown_append_ne (altered : ¬ part.Spelled) {left right : List Char}
    (next : (part.after.toList ++ left).head? ≠ some '\\')
    (next' : (part.after.toList ++ right).head? ≠ some '\\') :
    part.shown ++ left ≠ part.plain.toList ++ right := by
  by_cases loose : HasLooseEscape part.datum.toList
  · obtain ⟨before, lost, seen, spelled, visible⟩ := ((looseIn_before _).mpr loose).diverge
    rw [written_markupPieces] at spelled
    intro same
    rw [toList_plain, spelled, shown, front, visible] at same
    simp only [List.append_assoc, List.cons_append, List.append_cancel_left_eq, List.cons.injEq] at same
    exact absurd same.1 (by decide)
  · simp only [shown, toList_plain, visible_front loose, List.append_assoc, Ne, List.append_cancel_left_eq]
    cases styled : part.style with
    | none =>
      have single : endingBackslashes part.datum.toList = 1 := by
        by_contra other
        exact altered ⟨loose, by simpa [styled] using other⟩
      rw [ending, styled, slashes, if_pos single, single]
      exact (replicate_append_ne (by decide) next').symm
    | some style =>
      have several : 1 < endingBackslashes part.datum.toList := by
        by_contra other
        exact altered ⟨loose, by simpa [styled] using other⟩
      have half : part.slashes / 2 < endingBackslashes part.datum.toList := by
        rw [slashes, if_neg (by omega)]
        omega
      rw [ending, styled, List.append_assoc]
      refine replicate_append_ne half ?_
      split
      · simp
      · exact next

end CardPart

section Lines

variable {parts : List CardPart}

theorem upToBracket_parts (tagged : ∀ next ∈ parts.head?, next.style.isSome) :
    upToBracket (written (parts.flatMap CardPart.pieces)) = none := by
  cases parts with
  | nil => rfl
  | cons part rest =>
    obtain ⟨style, styled⟩ := Option.isSome_iff_exists.mp (tagged part rfl)
    rw [List.flatMap_cons, CardPart.pieces, styled, List.cons_append, written_tag]
    rfl

theorem Fit.parsed (fit : Fit parts) : Parsed (parts.flatMap CardPart.pieces) := by
  induction parts with
  | nil => exact .nil
  | cons part rest ih =>
    obtain ⟨plain, spaced, tagged, further⟩ := fit
    rw [List.flatMap_cons]
    exact CardPart.parsed_pieces plain (fun bare => spaced (Or.inr bare))
      (fun bare => upToBracket_parts (tagged bare)) (ih further)

theorem Fit.shown? (fit : Fit parts) (opened : List OpenTag) :
    Text.shown? tagRules opened (parts.flatMap CardPart.pieces) = some (parts.flatMap CardPart.shown) := by
  induction parts generalizing opened with
  | nil => rfl
  | cons part rest ih =>
    obtain ⟨plain, spaced, _, further⟩ := fit
    rw [List.flatMap_cons, List.flatMap_cons]
    obtain ⟨opened', shown⟩ : ∃ opened',
        Text.shown? tagRules opened (part.pieces ++ rest.flatMap CardPart.pieces) =
        (Text.shown? tagRules opened' (rest.flatMap CardPart.pieces)).map (part.shown ++ ·) :=
      CardPart.shown?_pieces plain (fun bare => spaced (Or.inr bare)) opened
    rw [shown, ih further, Option.map_some]

theorem Fit.shown_eq_iff (fit : Fit parts) :
    parts.flatMap CardPart.shown = parts.flatMap (fun part => part.plain.toList) ↔
      ∀ part ∈ parts, part.Spelled := by
  induction parts with
  | nil => simp
  | cons part rest ih =>
    obtain ⟨plain, spaced, _, further⟩ := fit
    -- What follows a part in its line begins with no backslash.
    have next (continuation : CardPart → List Char) :
        (part.after.toList ++ rest.flatMap continuation).head? ≠ some '\\' := by
      by_cases last : rest = [] ∧ part.after = ""
      · simp [last.1, last.2]
      · have present : part.after ≠ "" := by
          intro absent
          exact spaced (Or.inl fun none => last ⟨none, absent⟩) absent
        obtain ⟨c, text, first, plainFirst⟩ := CardPart.exists_first plain present
        rw [first]
        simpa using plainFirst.unescaped
    rw [List.flatMap_cons, List.flatMap_cons, List.forall_mem_cons]
    by_cases spelled : part.Spelled
    · rw [spelled.shown_eq, List.append_cancel_left_eq, ih further]
      simp [spelled]
    · simp [spelled, CardPart.shown_append_ne spelled (next _) (next _)]

theorem CardPart.visible_shown {part : CardPart} (plain : ∀ c ∈ part.after.toList, IsPlain c)
    (visible : ∀ c ∈ part.datum.toList, isControl c = false) : ∀ c ∈ part.shown, isControl c = false := by
  have slashes (count : Nat) : ∀ c ∈ List.replicate count '\\', isControl c = false := by
    intro c member
    rw [List.eq_of_mem_replicate member]
    rfl
  have ending : ∀ c ∈ part.ending, isControl c = false := by
    rw [CardPart.ending]
    split
    · next style _ =>
      have closing : ('[' :: '/' :: (style.name.toList ++ [']'])).all (fun c => !isControl c) = true := by
        cases style <;> decide
      rw [List.forall_mem_append]
      refine ⟨slashes _, ?_⟩
      split
      · intro c member
        simpa using List.all_eq_true.mp closing c member
      · simp
    · exact slashes _
  rw [CardPart.shown, List.forall_mem_append, List.forall_mem_append]
  refine ⟨fun c member => visible c ?_, ending, fun c member => (plain c member).visible⟩
  have inside : c ∈ beforeBackslashes part.datum.toList := by
    simpa [CardPart.front] using mem_written_of_visible member
  rw [← beforeBackslashes_append part.datum.toList]
  exact List.mem_append_left _ inside

theorem Fit.visible_shown (fit : Fit parts)
    (visible : ∀ part ∈ parts, ∀ c ∈ part.datum.toList, isControl c = false) :
    ∀ c ∈ parts.flatMap CardPart.shown, isControl c = false := by
  induction parts with
  | nil => simp
  | cons part rest ih =>
    obtain ⟨plain, _, _, further⟩ := fit
    rw [List.forall_mem_cons] at visible
    rw [List.flatMap_cons, List.forall_mem_append]
    exact ⟨CardPart.visible_shown plain visible.1, ih further visible.2⟩

end Lines

namespace CardLine

def markup (line : CardLine) : String := line.lead ++ String.join (line.parts.map CardPart.markup)

def plain (line : CardLine) : String := line.lead ++ String.join (line.parts.map CardPart.plain)

def WellFormed (line : CardLine) : Prop := (∀ c ∈ line.lead.toList, IsPlain c) ∧ Fit line.parts

theorem toList_plain (line : CardLine) :
    line.plain.toList = line.lead.toList ++ line.parts.flatMap fun part => part.plain.toList := by
  rw [plain, String.toList_append, String.toList_join, List.flatMap_map]

/-- A line can be shown, and shows its data as they are exactly if all of them are kept. -/
theorem WellFormed.exists_shown {line : CardLine} (wellFormed : line.WellFormed) :
    ∃ shown, render line.markup = .ok shown ∧ (shown = line.plain ↔ ∀ part ∈ line.parts, part.Kept) := by
  obtain ⟨lead, fit⟩ := wellFormed
  have parsed := fit.parsed.literals fun c member => ⟨(lead c member).unopened, (lead c member).unescaped⟩
  have spelled : written (line.lead.toList.map .literal ++ line.parts.flatMap CardPart.pieces) =
      line.markup.toList := by
    have parts (parts : List CardPart) : written (parts.flatMap CardPart.pieces) =
        parts.flatMap fun part => part.markup.toList := by
      induction parts with
      | nil => rfl
      | cons part rest ih => rw [List.flatMap_cons, List.flatMap_cons, written_append, ih, part.written_pieces]
    rw [written_append, written_literals, parts, markup, String.toList_append, String.toList_join,
      List.flatMap_map]
  have shown := toOption_renderBy tagRules line.markup
  rw [← spelled, markupPieces_written parsed, shown?_plain _ _ _ lead, fit.shown?] at shown
  refine ⟨String.ofList (dropControls (line.lead.toList ++ line.parts.flatMap CardPart.shown)), ?_, ?_⟩
  · cases rendered : render line.markup with
    | error fault => simp [← render.eq_def, rendered, Except.toOption] at shown
    | ok text => simpa [← render.eq_def, rendered, Except.toOption] using shown
  · rw [← String.toList_inj, String.toList_ofList, toList_plain]
    constructor
    · intro same part member
      -- What is shown has no controls, so the data have none, and nothing was dropped.
      have clean : ∀ c ∈ line.parts.flatMap (fun part => part.plain.toList), isControl c = false := by
        intro c inside
        exact visible_of_mem_dropControls (same ▸ List.mem_append_right _ inside)
      have data : ∀ part ∈ line.parts, ∀ c ∈ part.datum.toList, isControl c = false := by
        intro part member c inside
        refine clean c (List.mem_flatMap.mpr ⟨part, member, ?_⟩)
        rw [CardPart.plain, String.toList_append]
        exact List.mem_append_left _ inside
      rw [dropControls_append, dropControls_of_visible fun c inside => (lead c inside).visible,
        dropControls_of_visible (fit.visible_shown data), List.append_cancel_left_eq] at same
      exact ⟨fit.shown_eq_iff.mp same part member, data part member⟩
    · intro kept
      rw [dropControls_append, dropControls_of_visible fun c inside => (lead c inside).visible,
        dropControls_of_visible (fit.visible_shown fun part member => (kept part member).2),
        fit.shown_eq_iff.mpr fun part member => (kept part member).1]

end CardLine

def headerLine (symbol : String) (definition : Definition) : CardLine :=
  ⟨s!"{definition.kind.icon} ", ⟨some .bold, symbol, "  "⟩ ::
    match present definition.container with
    | some container => [⟨some .italic, definition.kind.label, " in "⟩, ⟨some .cyan, container, ""⟩]
    | none => [⟨some .italic, definition.kind.label, ""⟩]⟩

def definitionLine (root : Path) (definition : Definition) : CardLine :=
  ⟨"Definition: ",
    [⟨none, relativeText definition.file root, s!":{definition.range.start.line + 1}"⟩]⟩

def usageLineParts (root : Path) (usage : Usage) : CardLine :=
  ⟨"  • ", [⟨none, placeText root usage.file usage.line, " — "⟩,
    ⟨some .dim, truncate usage.preview previewWidth, ""⟩]⟩

/-- The lines of a card, with the data in them told apart from what is fixed. -/
def card (root : Path) (symbol : String) (definition : Option Definition) (usages : List Usage)
    (moduleName : Option String) (limit : Int) : List CardLine :=
  (match definition with
    | some definition => [headerLine symbol definition, definitionLine root definition, ⟨"", []⟩]
    | none => []) ++
  if usages.isEmpty then [⟨"", [⟨some .dim, "No usages found in current module scope", ""⟩]⟩]
  else
    (present moduleName).toList.map (fun name => ⟨"Module: ", [⟨some .magenta, name, ""⟩]⟩) ++
      ⟨s!"Usages ({usages.length}):", []⟩ :: (takeSigned limit usages).map (usageLineParts root) ++
      if limit < usages.length then
        [⟨s!"📋 Show all {usages.length} usages with: nest-scope usages --all", []⟩]
      else []

section Card

variable (root : Path) (symbol : String) (definition : Definition) (usage : Usage)

theorem markup_definition :
    [headerLine symbol definition, definitionLine root definition, ⟨"", []⟩].map CardLine.markup =
      definitionLines root symbol definition := by
  have label : escape definition.kind.label = definition.kind.label := by
    cases definition.kind <;> decide
  refine List.cons_eq_cons.mpr ⟨?_, List.cons_eq_cons.mpr ⟨?_, rfl⟩⟩
  · rw [headerLine, ← String.toList_inj]
    cases present definition.container <;>
      simp [CardLine.markup, CardPart.markup, CardStyle.name, label, toString]
  · rw [definitionLine, ← String.toList_inj]
    simp [CardLine.markup, CardPart.markup, toString]

theorem markup_usageLine : (usageLineParts root usage).markup = usageLine root usage := by
  rw [usageLineParts, usageLine, ← String.toList_inj]
  simp [CardLine.markup, CardPart.markup, CardStyle.name, toString]

theorem markup_usages (usages : List Usage) (moduleName : Option String) (limit : Int) :
    (card root symbol none usages moduleName limit).map CardLine.markup =
      usageLines root usages moduleName limit := by
  have sentence : escape "No usages found in current module scope" =
      "No usages found in current module scope" := by decide
  have owner (name : String) : CardLine.markup ⟨"Module: ", [⟨some .magenta, name, ""⟩]⟩ =
      s!"Module: [magenta]{escape name}[/magenta]" := by
    rw [← String.toList_inj]
    simp [CardLine.markup, CardPart.markup, CardStyle.name, toString]
  have bare (text : String) : CardLine.markup ⟨text, []⟩ = text := by
    simp [CardLine.markup]
  rw [card, usageLines, List.nil_append]
  split
  · simp only [List.map_cons, List.map_nil, CardLine.markup, CardPart.markup, sentence, noUsages]
    decide
  · simp only [List.map_append, List.map_cons, List.map_map, Function.comp_def, owner, bare,
      markup_usageLine, apply_ite (List.map CardLine.markup), List.map_nil]

theorem lines_eq_card (definition : Option Definition) (usages : List Usage) (moduleName : Option String)
    (limit : Int) : lines root symbol definition usages moduleName limit =
      (card root symbol definition usages moduleName limit).map CardLine.markup := by
  have counted := markup_usages root symbol usages moduleName limit
  cases definition with
  | none => exact counted.symm
  | some definition =>
    rw [card, List.nil_append] at counted
    rw [card, List.map_append, counted, markup_definition]
    rfl

theorem isPlain_of_all (text : String) (all : text.toList.all (fun c => IsPlain c) = true) :
    ∀ c ∈ text.toList, IsPlain c := by
  simpa using all

theorem isPlain_number (number : Int) : ∀ c ∈ (toString number).toList, IsPlain c := by
  have digits (number : Nat) : ∀ c ∈ number.repr.toList, IsPlain c := by
    intro c member
    rw [Nat.toList_repr] at member
    have digit := Nat.isDigit_of_mem_toDigits (by omega) (by omega) member
    refine ⟨?_, ?_, ?_, ?_⟩
    · rintro rfl
      cases digit
    · rintro rfl
      cases digit
    · rintro rfl
      cases digit
    · have low : 48 ≤ c.toNat := by
        simp only [Char.isDigit, Bool.and_eq_true, decide_eq_true_eq] at digit
        exact digit.1
      simp [isControl]
      omega
  intro c member
  change c ∈ number.repr.toList at member
  rw [Int.repr_eq_if] at member
  split at member
  · exact digits _ c member
  · rw [String.toList_append, List.mem_append] at member
    rcases member with sign | inside
    · rw [List.mem_singleton.mp sign]
      decide
    · exact digits _ c inside

theorem wellFormed_headerLine : (headerLine symbol definition).WellFormed := by
  constructor
  · change ∀ c ∈ (definition.kind.icon ++ " ").toList, IsPlain c
    refine isPlain_of_all _ ?_
    cases definition.kind <;> decide
  · rw [headerLine]
    cases present definition.container <;> simp [Fit, isPlain_iff, isControl]

theorem wellFormed_definitionLine : (definitionLine root definition).WellFormed := by
  have plain : ∀ c ∈ (s!":{definition.range.start.line + 1}").toList, IsPlain c := by
    intro c member
    rw [String.toList_append, List.mem_append] at member
    rcases member with colon | digit
    · rw [List.mem_singleton.mp colon]
      decide
    · exact isPlain_number _ c digit
  have present : s!":{definition.range.start.line + 1}" ≠ "" := by
    intro empty
    have colon : ':' ∈ (s!":{definition.range.start.line + 1}").toList := by
      rw [String.toList_append]
      exact List.mem_append_left _ List.mem_cons_self
    rw [empty] at colon
    cases colon
  exact ⟨by simp [definitionLine, isPlain_iff, isControl], plain, fun _ => present, by simp, trivial⟩

theorem wellFormed_usageLine : (usageLineParts root usage).WellFormed := by
  have bullet : ∀ c ∈ "  • ".toList, IsPlain c := isPlain_of_all _ (by decide)
  have dash : ∀ c ∈ " — ".toList, IsPlain c := isPlain_of_all _ (by decide)
  exact ⟨bullet, dash, by simp, by simp, by simp, by simp, by simp, trivial⟩

theorem wellFormed_card (definition : Option Definition) (usages : List Usage) (moduleName : Option String)
    (limit : Int) : ∀ line ∈ card root symbol definition usages moduleName limit, line.WellFormed := by
  have counted (before after : String) (fixed : ∀ c ∈ (before ++ after).toList, IsPlain c) :
      CardLine.WellFormed ⟨before ++ toString usages.length ++ after, []⟩ := by
    refine ⟨fun c member => ?_, trivial⟩
    simp only [String.toList_append, List.mem_append] at member fixed
    rcases member with (first | digit) | last
    · exact fixed c (Or.inl first)
    · exact isPlain_number usages.length c digit
    · exact fixed c (Or.inr last)
  intro line member
  unfold card at member
  rw [List.mem_append] at member
  rcases member with described | listed
  · cases definition with
    | none => cases described
    | some definition =>
      simp only [List.mem_cons, List.not_mem_nil, or_false] at described
      rcases described with rfl | rfl | rfl
      · exact wellFormed_headerLine symbol definition
      · exact wellFormed_definitionLine root definition
      · exact ⟨isPlain_of_all "" rfl, trivial⟩
  · split at listed
    · rw [List.mem_singleton.mp listed]
      exact ⟨isPlain_of_all "" rfl, by simp [Fit]⟩
    · simp only [List.mem_append, List.mem_cons, List.mem_map] at listed
      rcases listed with (⟨name, _, rfl⟩ | rfl | ⟨usage, _, rfl⟩) | more
      · exact ⟨isPlain_of_all "Module: " (by decide), by simp [Fit]⟩
      · exact counted "Usages (" "):" (isPlain_of_all _ (by decide))
      · exact wellFormed_usageLine root usage
      · split at more
        · rw [List.mem_singleton.mp more]
          exact counted "📋 Show all " " usages with: nest-scope usages --all"
            (isPlain_of_all _ (by decide))
        · cases more

end Card

/-- Every line of a card can be shown. It shows the symbol, the container, paths, the module and previews
as they are, without the card's own tags, exactly if each of them on the line is kept. -/
theorem lines_shown (root : Path) (symbol : String) (definition : Option Definition) (usages : List Usage)
    (moduleName : Option String) (limit : Int) :
    List.Forall₂ (fun line content => ∃ shown, render line = .ok shown ∧
        (shown = content.plain ↔ ∀ part ∈ content.parts, part.Kept))
      (lines root symbol definition usages moduleName limit)
      (card root symbol definition usages moduleName limit) := by
  rw [lines_eq_card, List.forall₂_map_left_iff, List.forall₂_same]
  intro line member
  exact (wellFormed_card root symbol definition usages moduleName limit line member).exists_shown

/-- A preview that ends in three backslashes: the closing tag after it is shown in place of two. -/
theorem lines_show_closing_tag :
    let usage : Usage := ⟨"/w/a.ts", ⟨⟨0, 0⟩, ⟨0, 2⟩⟩, "ab; // \\\\\\", none⟩
    (lines ⟨1, ["w"]⟩ "ab" none [usage] none 5).map render =
        [.ok "Usages (1):", .ok "  • a.ts:1 — ab; // \\[/dim]"] ∧
      (card ⟨1, ["w"]⟩ "ab" none [usage] none 5).map CardLine.plain =
        ["Usages (1):", "  • a.ts:1 — ab; // \\\\\\"] := by
  decide

end Hover

end ModuleScope
