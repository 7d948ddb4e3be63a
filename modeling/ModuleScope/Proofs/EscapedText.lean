import Mathlib
import ModuleScope.Proofs.MarkupPieces

/-!
Text escaped for markup. Escaping guards every tag of a text, and it shows the text again, with two
exceptions: a backslash before a bracket that begins no tag is lost, and backslashes at the end of the
text are taken for those of a tag that follows. How many these are decides what becomes of the tag.
-/
namespace ModuleScope.Text

namespace MarkupPiece

/-- A piece that shows a piece as it is written. -/
def guarded : MarkupPiece → MarkupPiece
  | literal c => literal c
  | tag count body => tag (2 * count + 1) body

end MarkupPiece

theorem written_guarded (pieces : List MarkupPiece) :
    written (pieces.map .guarded) = pieces.flatMap MarkupPiece.escaped := by
  induction pieces with
  | nil => rfl
  | cons piece rest ih =>
    rw [List.map_cons, List.flatMap_cons, ← ih]
    cases piece <;> rfl

section Guarded

variable {pieces : List MarkupPiece}

theorem upToBracket_guarded (opens : upToBracket (written pieces) = none) :
    upToBracket (written (pieces.map .guarded)) = none := by
  induction pieces with
  | nil => rfl
  | cons piece rest ih =>
    cases piece with
    | tag count body =>
      rw [List.map_cons, MarkupPiece.guarded, written_tag]
      exact upToBracket_backslashes _ _
    | literal c =>
      rw [List.map_cons, MarkupPiece.guarded, written_literal, upToBracket]
      rw [written_literal, upToBracket] at opens
      split at opens
      · cases opens
      · next other =>
        rw [if_neg other]
        split
        · rfl
        · next inner =>
          rw [if_neg inner, Option.map_eq_none_iff] at opens
          rw [ih opens, Option.map_none]

theorem tagBody?_guarded (none : tagBody? (written pieces) = .none) :
    tagBody? (written (pieces.map .guarded)) = .none := by
  cases pieces with
  | nil => rfl
  | cons piece rest =>
    cases piece with
    | tag count body => rw [List.map_cons, MarkupPiece.guarded, written_tag, List.replicate_succ]; rfl
    | literal c =>
      rw [List.map_cons, MarkupPiece.guarded, written_literal, tagBody?]
      rw [written_literal, tagBody?] at none
      split
      · next starts =>
        rw [if_pos starts, Option.map_eq_none_iff] at none
        rw [upToBracket_guarded none, Option.map_none]
      · rfl

theorem Parsed.guarded (parsed : Parsed pieces) : Parsed (pieces.map .guarded) := by
  induction parsed with
  | nil => exact .nil
  | @literal c rest opening escaping _ ih =>
    refine .literal (fun bracket => tagBody?_guarded (opening bracket)) (fun backslash => ?_) ih
    have first := escaping backslash
    cases rest with
    | nil => rfl
    | cons piece others => cases piece <;> exact first
  | tag isBody _ ih => exact .tag isBody ih

end Guarded

def visible : List MarkupPiece → List Char
  | [] => []
  | .literal c :: rest =>
    if c = '\\' ∧ rest.head? = some (.literal '[') then visible rest else c :: visible rest
  | .tag count body :: rest => List.replicate count '\\' ++ '[' :: (body ++ ']' :: visible rest)

theorem shown?_guarded (rules : TagRules) (opened : List OpenTag) {pieces : List MarkupPiece}
    (others : List MarkupPiece) (last : pieces.getLast? ≠ some (.literal '\\')) :
    shown? rules opened (pieces.map .guarded ++ others) =
      (shown? rules opened others).map (visible pieces ++ ·) := by
  induction pieces with
  | nil => simp [visible]
  | cons piece rest ih =>
    have further : rest.getLast? ≠ some (.literal '\\') := by
      intro ends
      rw [List.getLast?_cons, ends] at last
      exact last rfl
    cases piece with
    | tag count body =>
      have odd : (2 * count + 1) % 2 = 1 := by omega
      have half : (2 * count + 1) / 2 = count := by omega
      rw [List.map_cons, List.cons_append, MarkupPiece.guarded, shown?_tag, if_pos odd, half, ih further,
        Option.map_map]
      congr 1
      funext shown
      simp [visible]
    | literal c =>
      have next : c = '\\' → ((rest.map MarkupPiece.guarded ++ others).head? = some (.literal '[') ↔
          rest.head? = some (.literal '[')) := by
        rintro rfl
        cases rest with
        | nil => exact absurd rfl last
        | cons piece more => cases piece <;> simp [MarkupPiece.guarded]
      rw [List.map_cons, List.cons_append, MarkupPiece.guarded, shown?_literal, ih further, Option.map_map]
      congr 1
      funext shown
      by_cases backslash : c = '\\'
      · simp only [Function.comp_apply, visible, next backslash]
        split <;> rfl
      · simp [visible, backslash]

theorem mem_written_of_visible {c : Char} {pieces : List MarkupPiece} (member : c ∈ visible pieces) :
    c ∈ written pieces := by
  induction pieces with
  | nil => exact member
  | cons piece rest ih =>
    cases piece with
    | tag count body =>
      simp only [visible, written_tag, List.mem_append, List.mem_cons] at member ⊢
      exact member.imp_right (.imp_right (.imp_right (.imp_right ih)))
    | literal d =>
      rw [visible] at member
      rw [written_literal, List.mem_cons]
      split at member
      · exact Or.inr (ih member)
      · exact (List.mem_cons.mp member).imp_right ih

/-- A backslash stands before a bracket that begins no tag. -/
def HasLooseEscape (text : List Char) : Prop :=
  ∃ before after, text = before ++ '\\' :: '[' :: after ∧ tagBody? after = none

def LooseIn (pieces : List MarkupPiece) : Prop :=
  ∃ before after, pieces = before ++ .literal '\\' :: .literal '[' :: after

section Loose

variable {pieces left right : List MarkupPiece}

theorem Parsed.of_append (parsed : Parsed (left ++ right)) : Parsed right := by
  induction left with
  | nil => exact parsed
  | cons piece rest ih =>
    cases parsed with
    | literal _ _ others => exact ih others
    | tag _ others => exact ih others

theorem looseIn_iff (parsed : Parsed pieces) : LooseIn pieces ↔ HasLooseEscape (written pieces) := by
  constructor
  · rintro ⟨before, after, rfl⟩
    refine ⟨written before, written after, by simp, ?_⟩
    cases parsed.of_append with
    | literal _ _ others =>
      cases others with
      | literal opening _ _ => exact opening rfl
  · rintro ⟨before, after, whole, none⟩
    -- What comes before the backslash cannot be part of a tag with it, since the bracket follows.
    have read : Parsed (markupPieces before ++ .literal '\\' :: .literal '[' :: markupPieces after) := by
      refine (parsed_markupPieces before).append ?_ (by simp [upToBracket]) fun _ => rfl
      refine .literal (by rintro ⟨⟩) (fun _ => rfl)
        (.literal (fun _ => ?_) (by rintro ⟨⟩) (parsed_markupPieces after))
      rwa [written_markupPieces]
    refine ⟨markupPieces before, markupPieces after, ?_⟩
    rw [← markupPieces_written parsed, whole, ← markupPieces_written read]
    simp

theorem LooseIn.cons (loose : LooseIn pieces) (piece : MarkupPiece) : LooseIn (piece :: pieces) := by
  obtain ⟨before, after, rfl⟩ := loose
  exact ⟨piece :: before, after, rfl⟩

theorem visible_eq_written (tight : ¬ LooseIn pieces) : visible pieces = written pieces := by
  induction pieces with
  | nil => rfl
  | cons piece rest ih =>
    have further := ih fun loose => tight (loose.cons piece)
    cases piece with
    | tag count body => rw [visible, written_tag, further]
    | literal c =>
      have kept : ¬ (c = '\\' ∧ rest.head? = some (.literal '[')) := by
        rintro ⟨rfl, first⟩
        obtain ⟨more, rfl⟩ := List.head?_eq_some_iff.mp first
        exact tight ⟨[], more, rfl⟩
      rw [visible, if_neg kept, written_literal, further]

/-- Where a backslash is lost, the bracket after it is shown in its place. -/
theorem LooseIn.diverge (loose : LooseIn pieces) :
    ∃ before left right, written pieces = before ++ '\\' :: left ∧ visible pieces = before ++ '[' :: right := by
  obtain ⟨front, after, rfl⟩ := loose
  induction front with
  | nil => exact ⟨[], '[' :: written after, visible after, rfl, rfl⟩
  | cons piece rest ih =>
    obtain ⟨before, left, right, spelled, seen⟩ := ih
    rw [List.cons_append]
    cases piece with
    | tag count body =>
      refine ⟨List.replicate count '\\' ++ '[' :: (body ++ ']' :: before), left, right, ?_, ?_⟩
      · rw [written_tag, spelled]
        simp
      · rw [visible, seen]
        simp
    | literal c =>
      by_cases lost : c = '\\' ∧ (rest ++ .literal '\\' :: .literal '[' :: after).head? = some (.literal '[')
      · obtain ⟨more, first⟩ := List.head?_eq_some_iff.mp lost.2
        refine ⟨[], written (rest ++ .literal '\\' :: .literal '[' :: after), visible more, ?_, ?_⟩
        · rw [written_literal, lost.1, List.nil_append]
        · rw [visible, if_pos lost, first]
          rfl
      · exact ⟨c :: before, left, right, by rw [written_literal, spelled]; rfl,
          by rw [visible, if_neg lost, seen]; rfl⟩

end Loose

def endingBackslashes (text : List Char) : Nat := (text.rtakeWhile (· == '\\')).length

def beforeBackslashes (text : List Char) : List Char := text.rdropWhile (· == '\\')

theorem upToBracket_slashes (count : Nat) : upToBracket (List.replicate count '\\') = none := by
  induction count with
  | zero => rfl
  | succ count ih => simpa [List.replicate_succ, upToBracket] using ih

section Endings

variable (text : List Char)

theorem beforeBackslashes_append :
    beforeBackslashes text ++ List.replicate (endingBackslashes text) '\\' = text := by
  have same : text.rtakeWhile (· == '\\') = List.replicate (endingBackslashes text) '\\' := by
    refine List.eq_replicate_iff.mpr ⟨rfl, fun c member => ?_⟩
    simpa using List.mem_rtakeWhile_imp member
  rw [beforeBackslashes, ← same, List.rdropWhile_append_rtakeWhile]

theorem getLast?_beforeBackslashes : (beforeBackslashes text).getLast? ≠ some '\\' := by
  intro last
  obtain ⟨present, last⟩ := List.mem_getLast?_eq_getLast last
  have other := List.rdropWhile_last_not (· == '\\') text present
  exact other (beq_iff_eq.mpr last.symm)

theorem markupPieces_text :
    markupPieces text = markupPieces (beforeBackslashes text) ++
      List.replicate (endingBackslashes text) (.literal '\\') := by
  have slashes : Parsed (List.replicate (endingBackslashes text) (.literal '\\')) := by
    simpa using Parsed.nil.backslashes rfl (endingBackslashes text)
  have opens : upToBracket (written (List.replicate (endingBackslashes text) (.literal '\\'))) = none := by
    rw [written_replicate, upToBracket_slashes]
  have read := (parsed_markupPieces (beforeBackslashes text)).append slashes opens fun _ => by
    cases endingBackslashes text <;> rfl
  rw [← markupPieces_written read, written_append, written_replicate, written_markupPieces,
    beforeBackslashes_append]

theorem getLast?_markupPieces_before :
    (markupPieces (beforeBackslashes text)).getLast? ≠ some (.literal '\\') := by
  intro last
  obtain ⟨front, pieces⟩ := List.getLast?_eq_some_iff.mp last
  have spelled := written_markupPieces (beforeBackslashes text)
  rw [pieces, written_append] at spelled
  exact getLast?_beforeBackslashes text (by rw [← spelled]; simp)

theorem hasLooseEscape_slashes {text : List Char} (count : Nat) :
    HasLooseEscape (text ++ List.replicate count '\\') ↔ HasLooseEscape text := by
  have absent : '[' ∉ List.replicate count '\\' := by
    intro member
    exact absurd (List.eq_of_mem_replicate member) (by decide)
  constructor
  · rintro ⟨before, after, whole, opens⟩
    rcases List.append_eq_append_iff.mp whole with ⟨gap, _, slashes⟩ | ⟨gap, rfl, rest⟩
    · exact absurd (by rw [slashes]; simp) absent
    · match gap, rest with
      | [], rest =>
        rw [List.nil_append] at rest
        exact absurd (by rw [← rest]; simp) absent
      | [_], rest =>
        rw [List.singleton_append, List.cons.injEq] at rest
        exact absurd (by rw [← rest.2]; simp) absent
      | _ :: _ :: gap, rest =>
        simp only [List.cons_append, List.cons.injEq] at rest
        obtain ⟨rfl, rfl, rfl⟩ := rest
        rw [tagBody?_append (upToBracket_slashes count)] at opens
        exact ⟨before, gap, rfl, opens⟩
  · rintro ⟨before, after, rfl, opens⟩
    refine ⟨before, after ++ List.replicate count '\\', by simp, ?_⟩
    rwa [tagBody?_append (upToBracket_slashes count)]

theorem looseIn_before :
    LooseIn (markupPieces (beforeBackslashes text)) ↔ HasLooseEscape text := by
  rw [looseIn_iff (parsed_markupPieces _), written_markupPieces,
    ← hasLooseEscape_slashes (endingBackslashes text), beforeBackslashes_append]

end Endings

theorem closeBackslash_append {text : List Char} (last : text.getLast? ≠ some '\\') (count : Nat) :
    closeBackslash (text ++ List.replicate count '\\') =
      text ++ List.replicate (if count = 1 then 2 else count) '\\' := by
  have first : text.reverse.head? ≠ some '\\' := by rwa [List.head?_reverse]
  match count with
  | 0 =>
    rw [List.replicate_zero, List.append_nil, closeBackslash]
    split
    · next backwards => simp [backwards] at first
    · next backwards => simp [backwards] at first
    · exact (List.append_nil _).symm
  | 1 =>
    rw [closeBackslash, List.reverse_append]
    split
    · next backwards => simp_all
    · simp
    · next other => exact absurd rfl (other _)
  | count + 2 =>
    rw [closeBackslash, List.reverse_append, List.reverse_replicate]
    rfl

theorem getLast?_map_guarded {pieces : List MarkupPiece} (last : pieces.getLast? ≠ some (.literal '\\')) :
    (pieces.map MarkupPiece.guarded).getLast? ≠ some (.literal '\\') := by
  rw [List.getLast?_map]
  intro ends
  obtain ⟨piece, found, same⟩ := Option.map_eq_some_iff.mp ends
  cases piece with
  | literal c => exact last (found.trans (congrArg some same))
  | tag count body => cases same

theorem getLast?_guarded {pieces : List MarkupPiece} (last : pieces.getLast? ≠ some (.literal '\\')) :
    (written (pieces.map .guarded)).getLast? ≠ some '\\' := by
  rcases List.eq_nil_or_concat pieces with rfl | ⟨front, piece, rfl⟩
  · simp
  · cases piece with
    | tag count body => simp [MarkupPiece.guarded, List.getLast?_cons]
    | literal c => simpa [MarkupPiece.guarded] using last

/-- Escaping guards the tags of a text and doubles a backslash that is the only one at its end. -/
theorem toList_escape (text : String) :
    (escape text).toList =
      written ((markupPieces (beforeBackslashes text.toList)).map .guarded) ++
        List.replicate (if endingBackslashes text.toList = 1 then 2 else endingBackslashes text.toList) '\\' := by
  have slashes (count : Nat) : (List.replicate count (MarkupPiece.literal '\\')).flatMap MarkupPiece.escaped =
      List.replicate count '\\' := by
    induction count with
    | zero => rfl
    | succ count ih => rw [List.replicate_succ, List.flatMap_cons, ih]; rfl
  rw [escape, String.toList_ofList, markupPieces_text, List.flatMap_append, slashes, ← written_guarded,
    closeBackslash_append (getLast?_guarded (getLast?_markupPieces_before text.toList))]

end ModuleScope.Text
