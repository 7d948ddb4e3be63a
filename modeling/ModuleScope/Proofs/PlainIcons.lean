import Mathlib
import ModuleScope.Proofs.MarkupPieces
import ModuleScope.Text.Style

/-!
Icons in markup. Their plain forms hold brackets, which are escaped in markup; so replacing the icons of
a markup text and showing it gives the same as showing it and replacing the icons of what is shown. Two
places have to be free of icons: the inside of a tag, where a form would break the tag, and the place
after a backslash, which would escape the form once more. An escaped tag is text and may hold icons, but a
bracket in it makes the tag none, and then its backslashes are not halved: only a single one vanishes as
before.
-/
namespace ModuleScope.Text

def isIcon (c : Char) : Bool := (icons.lookup c).isSome

theorem mem_icons_of_lookup {c : Char} {form : String} (found : icons.lookup c = some form) :
    (c, form) ∈ icons := by
  obtain ⟨before, after, entries, _⟩ := List.lookup_eq_some_iff.mp found
  rw [entries]
  exact List.mem_append_right _ List.mem_cons_self

/-- Every plain form is a word in brackets, or holds none and begins no tag. -/
theorem forms_of_icons : ∀ entry ∈ icons,
    let form := entry.2.toList
    let inner := (form.drop 1).dropLast
    (form = '[' :: (inner ++ [']']) ∧ inner ≠ [] ∧ inner.all (fun c => IsPlain c) = true) ∨
      (form ≠ [] ∧ form.head?.any isTagStart = false ∧ form.all (fun c => IsPlain c) = true) := by
  decide

theorem forms_without_icons : ∀ entry ∈ icons,
    (IsPlain entry.1 ∧ isTagStart entry.1 = false) ∧ entry.2.toList.all (fun c => !isIcon c) = true := by
  decide

section Forms

variable {c : Char} {text : List Char} (markup : Bool)

theorem plainForm_of_not_icon (other : isIcon c = false) : plainForm markup c = [c] := by
  have absent : icons.lookup c = none := by simpa [isIcon] using other
  rw [plainForm, absent]

theorem flatMap_plainForm_of_no_icon (free : ∀ c ∈ text, isIcon c = false) :
    text.flatMap (plainForm markup) = text := by
  induction text with
  | nil => rfl
  | cons c rest ih =>
    rw [List.flatMap_cons, plainForm_of_not_icon markup (free c List.mem_cons_self),
      ih fun d member => free d (List.mem_cons_of_mem c member), List.singleton_append]

theorem escapeBrackets_of_no_bracket (closed : ∀ c ∈ text, c ≠ '[') : escapeBrackets text = text := by
  induction text with
  | nil => rfl
  | cons c rest ih =>
    have first : (c == '[') = false := by simpa using closed c List.mem_cons_self
    rw [escapeBrackets, List.flatMap_cons, first]
    exact congrArg (c :: ·) (ih fun d member => closed d (List.mem_cons_of_mem c member))

theorem isPlain_of_isIcon (icon : isIcon c = true) : IsPlain c := by
  obtain ⟨form, found⟩ := Option.isSome_iff_exists.mp icon
  exact (forms_without_icons _ (mem_icons_of_lookup found)).1.1

theorem isIcon_of_isTagStart (starts : isTagStart c = true) : isIcon c = false := by
  rw [Bool.eq_false_iff]
  intro icon
  obtain ⟨form, found⟩ := Option.isSome_iff_exists.mp icon
  rw [(forms_without_icons _ (mem_icons_of_lookup found)).1.2] at starts
  cases starts

theorem plainForm_cases (icon : isIcon c = true) :
    (∃ inner, inner ≠ [] ∧ (∀ d ∈ inner, IsPlain d) ∧ plainForm false c = '[' :: (inner ++ [']']) ∧
      plainForm true c = '\\' :: '[' :: (inner ++ [']'])) ∨
    ∃ form, form ≠ [] ∧ form.head?.any isTagStart = false ∧ (∀ d ∈ form, IsPlain d) ∧
      ∀ markup, plainForm markup c = form := by
  obtain ⟨form, found⟩ := Option.isSome_iff_exists.mp icon
  have shape := forms_of_icons _ (mem_icons_of_lookup found)
  simp only [List.all_eq_true, decide_eq_true_eq] at shape
  rcases shape with ⟨bracketed, present, plain⟩ | ⟨present, first, plain⟩
  · refine Or.inl ⟨_, present, plain, by simpa [plainForm, found] using bracketed, ?_⟩
    have closed : ∀ c ∈ (form.toList.drop 1).dropLast ++ [']'], c ≠ '[' := by
      intro c member
      rcases List.mem_append.mp member with inside | last
      · exact (plain c inside).unopened
      · rw [List.mem_singleton.mp last]
        decide
    calc plainForm true c
      _ = escapeBrackets form.toList := by simp [plainForm, found]
      _ = escapeBrackets ('[' :: ((form.toList.drop 1).dropLast ++ [']'])) := by rw [← bracketed]
      _ = '\\' :: '[' :: escapeBrackets ((form.toList.drop 1).dropLast ++ [']']) := rfl
      _ = _ := by rw [escapeBrackets_of_no_bracket closed]
  · refine Or.inr ⟨_, present, first, plain, fun markup => ?_⟩
    simp only [plainForm, found, escapeBrackets_of_no_bracket fun c member => (plain c member).unopened,
      ite_self]

theorem isIcon_of_mem_plainForm {d : Char} (member : d ∈ plainForm markup c) : isIcon d = false := by
  cases found : icons.lookup c with
  | none =>
    rw [plainForm_of_not_icon markup (by simp [isIcon, found]), List.mem_singleton] at member
    rw [member, isIcon, found]
    rfl
  | some form =>
    have free : ∀ e ∈ form.toList, isIcon e = false := by
      simpa using (forms_without_icons _ (mem_icons_of_lookup found)).2
    have backslash : isIcon '\\' = false := by decide
    simp only [plainForm, found] at member
    split at member
    · obtain ⟨e, inside, escaped⟩ := List.mem_flatMap.mp member
      split at escaped
      · next bracket =>
        rcases List.mem_pair.mp escaped with rfl | rfl
        · exact backslash
        · exact (beq_iff_eq.mp bracket) ▸ free e inside
      · rw [List.mem_singleton.mp escaped]
        exact free e inside
    · exact free d member

end Forms

section Strip

variable (markup : Bool) (left right text : String)

theorem toList_stripIcons : (stripIcons markup text).toList = text.toList.flatMap (plainForm markup) :=
  String.toList_ofList

theorem stripIcons_append :
    stripIcons markup (left ++ right) = stripIcons markup left ++ stripIcons markup right := by
  rw [stripIcons, String.toList_append, List.flatMap_append, String.ofList_append]
  rfl

theorem isIcon_of_mem_stripIcons {c : Char} (member : c ∈ (stripIcons markup text).toList) :
    isIcon c = false := by
  rw [toList_stripIcons] at member
  obtain ⟨d, _, inside⟩ := List.mem_flatMap.mp member
  exact isIcon_of_mem_plainForm markup inside

theorem stripIcons_stripIcons (again : Bool) :
    stripIcons again (stripIcons markup text) = stripIcons markup text := by
  rw [stripIcons, flatMap_plainForm_of_no_icon again fun c => isIcon_of_mem_stripIcons markup text,
    String.ofList_toList]

end Strip

section Brackets

variable {text : List Char}

theorem upToBracket_strip (opens : upToBracket text = none) :
    upToBracket (text.flatMap (plainForm true)) = none := by
  induction text with
  | nil => rfl
  | cons c rest ih =>
    rw [List.flatMap_cons]
    by_cases icon : isIcon c = true
    · have plain := isPlain_of_isIcon icon
      have further : upToBracket rest = none := by
        simpa [upToBracket, plain.unopened, plain.unclosed] using opens
      rcases plainForm_cases icon with ⟨inner, _, _, _, form⟩ | ⟨form, _, _, plain, same⟩
      · rw [form]
        rfl
      · rw [same, upToBracket_append (ih further), upToBracket_of_plain plain]
    · rw [plainForm_of_not_icon true (by simpa using icon), List.singleton_append]
      rw [upToBracket] at opens ⊢
      split at opens
      · cases opens
      · next closing =>
        rw [if_neg closing]
        split
        · rfl
        · next other => rw [ih (by simpa [other] using opens), Option.map_none]

/-- A bracket that begins no tag begins none when the icons after it are replaced. -/
theorem tagBody?_strip (opens : tagBody? text = none) :
    tagBody? (text.flatMap (plainForm true)) = none := by
  cases text with
  | nil => rfl
  | cons c rest =>
    rw [List.flatMap_cons]
    by_cases icon : isIcon c = true
    · rcases plainForm_cases icon with ⟨inner, _, _, _, form⟩ | ⟨form, present, first, _, same⟩
      · rw [form]
        rfl
      · obtain ⟨d, others, rfl⟩ := List.exists_cons_of_ne_nil present
        rw [same, List.cons_append, tagBody?, if_neg (by simpa using first)]
    · rw [plainForm_of_not_icon true (by simpa using icon), List.singleton_append]
      rw [tagBody?] at opens ⊢
      split
      · next starts =>
        rw [if_pos starts, Option.map_eq_none_iff] at opens
        rw [upToBracket_strip opens, Option.map_none]
      · rfl

end Brackets

theorem exists_pieces_of_icon (rules : TagRules) {c : Char} (icon : isIcon c = true) :
    ∃ pieces, written pieces = plainForm true c ∧ (∀ rest, Parsed rest → Parsed (pieces ++ rest)) ∧
      ∀ opened rest, shown? rules opened (pieces ++ rest) =
        (shown? rules opened rest).map (plainForm false c ++ ·) := by
  rcases plainForm_cases icon with ⟨inner, present, plain, shown, form⟩ | ⟨form, _, _, plain, same⟩
  · have brackets : '[' ∉ inner ∧ ']' ∉ inner :=
      ⟨fun member => (plain _ member).unopened rfl, fun member => (plain _ member).unclosed rfl⟩
    rw [shown, form]
    by_cases isBody : IsTagBody inner
    · refine ⟨[.tag 1 inner], by simp, fun rest parsed => .tag isBody parsed, fun opened rest => ?_⟩
      rw [List.singleton_append, shown?_tag]
      simp
    · obtain ⟨first, others, rfl⟩ := List.exists_cons_of_ne_nil present
      have other : isTagStart first = false := by
        rw [Bool.eq_false_iff]
        exact fun starts => isBody ⟨starts, brackets⟩
      have quiet : ∀ d ∈ first :: others ++ [']'], d ≠ '[' ∧ d ≠ '\\' := by
        intro d member
        rcases List.mem_append.mp member with inside | last
        · exact ⟨(plain d inside).unopened, (plain d inside).unescaped⟩
        · rw [List.mem_singleton.mp last]
          decide
      refine ⟨.literal '\\' :: .literal '[' :: (first :: others ++ [']']).map .literal, ?_, ?_, ?_⟩
      · rw [written_literal, written_literal, written_literals]
      · intro rest parsed
        refine .literal (by rintro ⟨⟩) (fun _ => rfl)
          (.literal (fun _ => ?_) (by rintro ⟨⟩) (parsed.literals quiet))
        simp [tagBody?, other]
      · intro opened rest
        have unopened : '[' ∉ first :: others ++ [']'] := fun member => (quiet _ member).1 rfl
        rw [List.cons_append, List.cons_append, shown?_literal, shown?_literal,
          shown?_literals _ _ _ unopened (by simp [List.getLast?_cons]), Option.map_map, Option.map_map]
        congr 1
  · refine ⟨form.map .literal, by rw [written_literals, same], fun rest parsed => parsed.literals ?_, ?_⟩
    · exact fun d member => ⟨(plain d member).unopened, (plain d member).unescaped⟩
    · intro opened rest
      rw [same, shown?_plain _ _ _ plain]

section Bodies

variable {body : List Char} (isBody : IsTagBody body)
include isBody

theorem IsTagBody.strip (closed : ∀ c ∈ body, '[' ∉ plainForm false c) :
    IsTagBody (body.flatMap (plainForm true)) ∧
      body.flatMap (plainForm true) = body.flatMap (plainForm false) := by
  obtain ⟨first, unopened, unclosed⟩ := isBody
  have form : ∀ c ∈ body, plainForm true c = plainForm false c ∧ '[' ∉ plainForm true c ∧
      ']' ∉ plainForm true c := by
    intro c member
    by_cases icon : isIcon c = true
    · rcases plainForm_cases icon with ⟨inner, _, _, bracketed, _⟩ | ⟨form, _, _, plain, same⟩
      · exact absurd (by rw [bracketed]; exact List.mem_cons_self) (closed c member)
      · rw [same, same]
        exact ⟨rfl, fun bracket => (plain _ bracket).unopened rfl,
          fun bracket => (plain _ bracket).unclosed rfl⟩
    · rw [Bool.not_eq_true] at icon
      simp only [plainForm_of_not_icon _ icon, List.mem_singleton, true_and]
      exact ⟨fun bracket => unopened (bracket ▸ member), fun bracket => unclosed (bracket ▸ member)⟩
  refine ⟨⟨?_, ?_, ?_⟩, List.flatMap_congr fun c member => (form c member).1⟩
  · obtain ⟨c, rest, rfl⟩ : ∃ c rest, body = c :: rest :=
      List.exists_cons_of_ne_nil (by rintro rfl; simp at first)
    have starts : isTagStart c = true := by simpa using first
    simpa [plainForm_of_not_icon true (isIcon_of_isTagStart starts)] using starts
  · intro bracket
    obtain ⟨c, member, inside⟩ := List.mem_flatMap.mp bracket
    exact (form c member).2.1 inside
  · intro bracket
    obtain ⟨c, member, inside⟩ := List.mem_flatMap.mp bracket
    exact (form c member).2.2 inside

/-- An icon whose form holds a bracket ends the tag that it lies in. -/
theorem IsTagBody.tagBody?_strip {c : Char} (member : c ∈ body) (bracketed : '[' ∈ plainForm false c)
    (rest : List Char) : tagBody? (body.flatMap (plainForm true) ++ rest) = none := by
  obtain ⟨before, after, rfl⟩ := List.append_of_mem member
  have icon : isIcon c = true := by
    by_contra other
    rw [plainForm_of_not_icon false (by simpa using other), List.mem_singleton] at bracketed
    exact isBody.2.1 (bracketed ▸ member)
  have form : ∃ inner, plainForm true c = '\\' :: '[' :: inner := by
    rcases plainForm_cases icon with ⟨inner, _, _, _, form⟩ | ⟨form, _, _, plain, same⟩
    · exact ⟨_, form⟩
    · rw [same] at bracketed
      exact absurd rfl (plain _ bracketed).unopened
  obtain ⟨inner, form⟩ := form
  have unclosed : upToBracket before = none := by
    rw [Option.eq_none_iff_forall_ne_some]
    intro found reached
    obtain ⟨more, rfl, _⟩ := upToBracket_eq_some_iff.mp reached
    exact isBody.2.2 (by simp)
  have opens : upToBracket ((before ++ c :: after).flatMap (plainForm true) ++ rest) = none := by
    rw [List.flatMap_append, List.flatMap_cons, form, List.append_assoc,
      upToBracket_append (by simp [upToBracket])]
    exact upToBracket_strip unclosed
  exact @tagBody?_append [] _ opens

end Bodies

/-- Pieces for those with icons replaced. They keep a first one that is neither a tag nor an icon, which is
what a backslash before them depends on. -/
structure Stripped (rules : TagRules) (pieces stripped : List MarkupPiece) : Prop where
  parsed : Parsed stripped
  written_eq : written stripped = (written pieces).flatMap (plainForm true)
  shown_eq : ∀ opened, shown? rules opened stripped =
    (shown? rules opened pieces).map fun shown => shown.flatMap (plainForm false)
  head_eq : beginsWithTag pieces = false → (∀ c, pieces.head? = some (.literal c) → isIcon c = false) →
    stripped.head? = pieces.head?

namespace Stripped

variable {rules : TagRules} {rest stripped : List MarkupPiece} (done : Stripped rules rest stripped)
include done

theorem icon {c : Char} (icon : isIcon c = true) : ∃ longer, Stripped rules (.literal c :: rest) longer := by
  obtain ⟨form, spelled, read, shows⟩ := exists_pieces_of_icon rules icon
  refine ⟨form ++ stripped, read _ done.parsed, ?_, fun opened => ?_, fun _ other => ?_⟩
  · rw [written_append, spelled, done.written_eq, written_literal, List.flatMap_cons]
  · rw [shows, done.shown_eq, shown?_literal, Option.map_map, Option.map_map]
    congr 1
    funext text
    simp [(isPlain_of_isIcon icon).unescaped]
  · rw [other c rfl] at icon
    cases icon

theorem character {c : Char} (other : isIcon c = false) (opening : c = '[' → tagBody? (written rest) = none)
    (escaping : c = '\\' → beginsWithTag rest = false)
    (unescaped : c = '\\' → ∀ d, rest.head? = some (.literal d) → isIcon d = false) :
    Stripped rules (.literal c :: rest) (.literal c :: stripped) := by
  have next : c = '\\' → stripped.head? = rest.head? := fun backslash =>
    done.head_eq (escaping backslash) (unescaped backslash)
  refine ⟨.literal (fun bracket => ?_) (fun backslash => ?_) done.parsed, ?_, fun opened => ?_, fun _ _ => rfl⟩
  · rw [done.written_eq]
    exact tagBody?_strip (opening bracket)
  · have kept := escaping backslash
    have first := next backslash
    cases stripped with
    | nil => rfl
    | cons piece others =>
      obtain ⟨more, rfl⟩ := List.head?_eq_some_iff.mp first.symm
      cases piece <;> exact kept
  · rw [written_literal, written_literal, List.flatMap_cons, done.written_eq, plainForm_of_not_icon true other]
    rfl
  · rw [shown?_literal, shown?_literal, done.shown_eq, Option.map_map, Option.map_map]
    congr 1
    funext text
    by_cases backslash : c = '\\'
    · rw [Function.comp_apply, Function.comp_apply, next backslash]
      split
      · rfl
      · rw [List.flatMap_cons, plainForm_of_not_icon false other]
        rfl
    · simp [backslash, plainForm_of_not_icon false other]

theorem literals {text : List Char} (unopened : '[' ∉ text) (last : text.getLast? ≠ some '\\')
    (unescaped : ∀ before c after, text = before ++ '\\' :: c :: after → isIcon c = false) :
    ∃ longer, Stripped rules (text.map .literal ++ rest) longer := by
  induction text with
  | nil => exact ⟨stripped, done⟩
  | cons c others ih =>
    have further : others.getLast? ≠ some '\\' := by
      intro ends
      rw [List.getLast?_cons, ends] at last
      exact last rfl
    obtain ⟨longer, done⟩ := ih (fun member => unopened (List.mem_cons_of_mem c member)) further
      fun before d after whole => unescaped (c :: before) d after (by rw [whole]; rfl)
    by_cases icon : isIcon c = true
    · exact done.icon icon
    · refine ⟨_, done.character (by simpa using icon) ?_ ?_ ?_⟩
      · rintro rfl
        exact absurd List.mem_cons_self unopened
      · rintro rfl
        cases others with
        | nil => exact absurd rfl last
        | cons d more => rfl
      · rintro rfl d first
        cases others with
        | nil => exact absurd rfl last
        | cons e more =>
          obtain rfl : e = d := by simpa using first
          exact unescaped [] e more rfl

section Tags

variable {count : Nat} {body : List Char} (isBody : IsTagBody body)
include isBody

omit done isBody in
theorem flatMap_slashes (markup : Bool) (count : Nat) :
    (List.replicate count '\\').flatMap (plainForm markup) = List.replicate count '\\' := by
  apply flatMap_plainForm_of_no_icon
  intro c member
  rw [List.eq_of_mem_replicate member]
  decide

omit done isBody in
theorem plainForm_bracket (markup : Bool) : plainForm markup '[' = ['['] ∧ plainForm markup ']' = [']'] :=
  ⟨plainForm_of_not_icon markup (by decide), plainForm_of_not_icon markup (by decide)⟩

/-- A tag stays one if no form in it has a bracket; what is inside may only change if it is escaped. -/
theorem tag (closed : ∀ c ∈ body, '[' ∉ plainForm false c)
    (outside : count % 2 = 0 → ∀ c ∈ body, isIcon c = false) :
    Stripped rules (.tag count body :: rest) (.tag count (body.flatMap (plainForm true)) :: stripped) := by
  obtain ⟨isStripped, same⟩ := isBody.strip closed
  refine ⟨.tag isStripped done.parsed, ?_, fun opened => ?_, by rintro ⟨⟩⟩
  · simp [done.written_eq, flatMap_slashes, plainForm_bracket]
  · rw [shown?_tag, shown?_tag]
    split
    · rw [done.shown_eq, Option.map_map, Option.map_map]
      congr 1
      funext text
      simp [flatMap_slashes, plainForm_bracket, same]
    · next even =>
      rw [flatMap_plainForm_of_no_icon true (outside (by omega)), Option.map_bind]
      congr 1
      funext opened
      rw [Function.comp_apply, done.shown_eq, Option.map_map, Option.map_map]
      congr 1
      funext text
      simp [flatMap_slashes]

/-- A tag behind one backslash becomes text if a form in it has a bracket, and shows the same. -/
theorem escapedTag {c : Char} (member : c ∈ body) (bracketed : '[' ∈ plainForm false c)
    (unescaped : ∀ before c after, body ++ [']'] = before ++ '\\' :: c :: after → isIcon c = false) :
    ∃ longer, Stripped rules (.tag 1 body :: rest) longer := by
  have unopened : '[' ∉ body ++ [']'] := by simpa using isBody.2.1
  have last : (body ++ [']']).getLast? ≠ some '\\' := by simp
  obtain ⟨inner, text⟩ := done.literals unopened last unescaped
  have spelled : written inner =
      body.flatMap (plainForm true) ++ ']' :: (written rest).flatMap (plainForm true) := by
    rw [text.written_eq, written_append, written_literals]
    simp [plainForm_bracket]
  refine ⟨.literal '\\' :: .literal '[' :: inner, ?_, ?_, fun opened => ?_, by rintro ⟨⟩⟩
  · refine .literal (by rintro ⟨⟩) (fun _ => rfl) (.literal (fun _ => ?_) (by rintro ⟨⟩) text.parsed)
    rw [spelled]
    exact isBody.tagBody?_strip member bracketed _
  · have backslash : plainForm true '\\' = ['\\'] := plainForm_of_not_icon true (by decide)
    simp [spelled, plainForm_bracket, backslash]
  · rw [shown?_literal, shown?_literal, text.shown_eq, shown?_literals _ _ _ unopened last, shown?_tag,
      if_pos rfl]
    simp only [Option.map_map]
    congr 1
    funext shown
    simp [plainForm_bracket]

end Tags

end Stripped

/-- Pieces with icons in escaped tags only, and not after backslashes. Behind more than one backslash even
an escaped tag holds no icon whose form has a bracket. -/
structure IconsApart (pieces : List MarkupPiece) : Prop where
  outside : ∀ count body, .tag count body ∈ pieces → count % 2 = 0 → ∀ c ∈ body, isIcon c = false
  closed : ∀ count body, .tag count body ∈ pieces → 1 < count → ∀ c ∈ body, '[' ∉ plainForm false c
  unescaped : ∀ before c after, written pieces = before ++ '\\' :: c :: after → isIcon c = false

theorem IconsApart.tail {piece : MarkupPiece} {rest : List MarkupPiece} (apart : IconsApart (piece :: rest)) :
    IconsApart rest := by
  refine ⟨fun count body member => apart.outside count body (List.mem_cons_of_mem piece member),
    fun count body member => apart.closed count body (List.mem_cons_of_mem piece member), ?_⟩
  intro before c after whole
  refine apart.unescaped (piece.written ++ before) c after ?_
  rw [List.append_assoc, ← whole]
  rfl

theorem exists_stripped (rules : TagRules) {pieces : List MarkupPiece} (parsed : Parsed pieces)
    (apart : IconsApart pieces) : ∃ stripped, Stripped rules pieces stripped := by
  induction parsed with
  | nil => exact ⟨[], .nil, rfl, fun opened => rfl, fun _ _ => rfl⟩
  | @literal c rest opening escaping _ ih =>
    obtain ⟨stripped, done⟩ := ih apart.tail
    by_cases icon : isIcon c = true
    · exact done.icon icon
    · refine ⟨_, done.character (by simpa using icon) opening escaping ?_⟩
      rintro rfl d first
      obtain ⟨more, rfl⟩ := List.head?_eq_some_iff.mp first
      exact apart.unescaped [] d (written more) rfl
  | @tag count body rest isBody _ ih =>
    obtain ⟨stripped, done⟩ := ih apart.tail
    have outside := apart.outside count body List.mem_cons_self
    by_cases closed : ∀ c ∈ body, '[' ∉ plainForm false c
    · exact ⟨_, done.tag isBody closed outside⟩
    · push Not at closed
      obtain ⟨c, member, bracketed⟩ := closed
      -- Only a single backslash may stand before a tag with a bracketed form in it.
      obtain rfl : count = 1 := by
        have few : ¬ 1 < count := fun more =>
          apart.closed count body List.mem_cons_self more c member bracketed
        have odd : count ≠ 0 := by
          rintro rfl
          rw [plainForm_of_not_icon false (outside rfl c member), List.mem_singleton] at bracketed
          exact isBody.2.1 (bracketed ▸ member)
        omega
      refine done.escapedTag isBody member bracketed fun before d after whole => ?_
      refine apart.unescaped ('\\' :: '[' :: before) d (after ++ written rest) ?_
      have spelled : body ++ ']' :: written rest = before ++ '\\' :: d :: (after ++ written rest) := by
        simpa using congrArg (· ++ written rest) whole
      rw [written_tag, spelled]
      rfl

theorem isControl_of_mem_plainForm {c d : Char} (icon : isIcon c = true) (member : d ∈ plainForm false c) :
    isControl d = false := by
  rcases plainForm_cases icon with ⟨inner, _, plain, form, _⟩ | ⟨form, _, _, plain, same⟩
  · rw [form, List.mem_cons, List.mem_append, List.mem_singleton] at member
    rcases member with rfl | inside | rfl
    · rfl
    · exact (plain d inside).visible
    · rfl
  · exact (plain d (same false ▸ member)).visible

/-- Controls have no forms and occur in none, so it does not matter when they are dropped. -/
theorem dropControls_flatMap (text : List Char) :
    dropControls (text.flatMap (plainForm false)) = (dropControls text).flatMap (plainForm false) := by
  induction text with
  | nil => rfl
  | cons c rest ih =>
    rw [List.flatMap_cons, dropControls_append, ih, dropControls_cons]
    by_cases icon : isIcon c = true
    · rw [dropControls_of_visible fun d => isControl_of_mem_plainForm icon,
        if_neg (by simp [(isPlain_of_isIcon icon).visible]), List.flatMap_cons]
    · have form := plainForm_of_not_icon false (Bool.not_eq_true _ ▸ icon)
      rw [form, dropControls_cons]
      split
      · rfl
      · rw [List.flatMap_cons, form]
        rfl

theorem toOption_render_stripIcons (rules : TagRules) {text : String}
    (apart : IconsApart (markupPieces text.toList)) :
    (renderBy rules (stripIcons true text)).toOption = (renderBy rules text).toOption.map (stripIcons false) := by
  obtain ⟨stripped, done⟩ := exists_stripped rules (parsed_markupPieces _) apart
  have same := done.written_eq
  rw [written_markupPieces, ← toList_stripIcons] at same
  rw [toOption_renderBy, toOption_renderBy, ← same, markupPieces_written done.parsed, done.shown_eq,
    Option.map_map, Option.map_map]
  congr 1
  funext characters
  simp [stripIcons, dropControls_flatMap]

/-- Where no icon lies inside a tag or directly after a backslash, and none with brackets in its form inside
an escaped tag behind several backslashes, markup with its icons replaced fails to be shown exactly if the
markup does, and otherwise shows the same text with its icons replaced, in which none is left. This holds
whatever the words in tags mean. Replacing icons again changes nothing, and texts may be joined before or
after it. -/
theorem shown_without_icons :
    (∀ (rules : TagRules) (text : String),
      (∀ count body, .tag count body ∈ markupPieces text.toList → count % 2 = 0 →
        ∀ c ∈ body, isIcon c = false) →
      (∀ count body, .tag count body ∈ markupPieces text.toList → 1 < count →
        ∀ c ∈ body, '[' ∉ plainForm false c) →
      (∀ before c after, text.toList = before ++ '\\' :: c :: after → isIcon c = false) →
      ((∃ fault, renderBy rules (stripIcons true text) = .error fault) ↔
        ∃ fault, renderBy rules text = .error fault) ∧
      ∀ shown, renderBy rules text = .ok shown →
        renderBy rules (stripIcons true text) = .ok (stripIcons false shown) ∧
        ∀ c ∈ (stripIcons false shown).toList, isIcon c = false) ∧
    (∀ markup text, stripIcons markup (stripIcons markup text) = stripIcons markup text) ∧
    ∀ markup left right,
      stripIcons markup (left ++ right) = stripIcons markup left ++ stripIcons markup right := by
  refine ⟨fun rules text outside closed unescaped => ?_,
    fun markup text => stripIcons_stripIcons markup text markup, stripIcons_append⟩
  have same := toOption_render_stripIcons rules ⟨outside, closed, by rwa [written_markupPieces]⟩
  cases replaced : renderBy rules (stripIcons true text) with
  | error fault =>
    cases original : renderBy rules text with
    | error other => exact ⟨by simp, by rintro _ ⟨⟩⟩
    | ok shown => simp [replaced, original, Except.toOption] at same
  | ok result =>
    cases original : renderBy rules text with
    | error other => simp [replaced, original, Except.toOption] at same
    | ok shown =>
      obtain rfl : result = stripIcons false shown := by
        simpa [replaced, original, Except.toOption] using same
      refine ⟨by simp, ?_⟩
      rintro _ ⟨⟩
      exact ⟨rfl, fun c => isIcon_of_mem_stripIcons false shown⟩

def MarkupPiece.keepsIcons : MarkupPiece → Bool
  | literal _ => true
  | tag count body =>
    (count % 2 != 0 || body.all fun c => !isIcon c) &&
      (count ≤ 1 || body.all fun c => !(plainForm false c).contains '[')

/-- Icons after a bracket that is never closed, before and after tags, after a bracket of their own, and in
escaped tags, one of them behind three backslashes. -/
theorem shown_without_icons_openBracket :
    let text := "[q🔹 \\[a🔸] \\\\\\[b→] [bold]🔷[→[/bold]"
    render text = .ok "[q🔹 [a🔸] \\[b→] 🔷[→" ∧
      render (stripIcons true text) = .ok (stripIcons false "[q🔹 [a🔸] \\[b→] 🔷[→") ∧
      stripIcons false "[q🔹 [a🔸] \\[b→] 🔷[→" = "[q[m] [a[f]] \\[b->] [C][->" := by
  intro text
  have pieces : (markupPieces text.toList).all MarkupPiece.keepsIcons = true := by decide
  have backslashes : text.toList.tails.all (fun tail =>
      tail.head? != some '\\' || !tail.tail.head?.any isIcon) = true := by decide
  have shown : render text = .ok "[q🔹 [a🔸] \\[b→] 🔷[→" := by decide
  have apart (count : Nat) (body : List Char) (member : .tag count body ∈ markupPieces text.toList) :
      (count % 2 = 0 → ∀ c ∈ body, isIcon c = false) ∧ (1 < count → ∀ c ∈ body, '[' ∉ plainForm false c) := by
    have kept := List.all_eq_true.mp pieces _ member
    simp only [MarkupPiece.keepsIcons, Bool.and_eq_true, Bool.or_eq_true, List.all_eq_true, bne_iff_ne,
      decide_eq_true_eq, Bool.not_eq_true', List.contains_eq_mem, decide_eq_false_iff_not] at kept
    exact ⟨fun even => kept.1.resolve_left (by omega), fun several => kept.2.resolve_left (by omega)⟩
  refine ⟨shown, ((shown_without_icons.1 tagRules text ?_ ?_ ?_).2 _ shown).1, by decide⟩
  · exact fun count body member => (apart count body member).1
  · exact fun count body member => (apart count body member).2
  · intro before c after whole
    have ending : '\\' :: c :: after ∈ text.toList.tails := (List.mem_tails ..).mpr ⟨before, whole.symm⟩
    simpa using List.all_eq_true.mp backslashes _ ending

/-- Behind three backslashes a form with a bracket makes the tag none, and two of them are shown. -/
theorem shown_with_doubled_backslash :
    let text := "\\\\\\[q🔹]"
    render text = .ok "\\[q🔹]" ∧ stripIcons false "\\[q🔹]" = "\\[q[m]]" ∧
      render (stripIcons true text) = .ok "\\\\[q[m]]" ∧
      (∀ before c after, text.toList = before ++ '\\' :: c :: after → isIcon c = false) := by
  refine ⟨by decide, by decide, by decide, fun before c after whole => ?_⟩
  have backslashes : "\\\\\\[q🔹]".toList.tails.all (fun tail =>
      tail.head? != some '\\' || !tail.tail.head?.any isIcon) = true := by decide
  have ending : '\\' :: c :: after ∈ "\\\\\\[q🔹]".toList.tails := (List.mem_tails ..).mpr ⟨before, whole.symm⟩
  simpa using List.all_eq_true.mp backslashes _ ending

end ModuleScope.Text
