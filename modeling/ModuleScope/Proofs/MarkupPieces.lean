import Mathlib
import ModuleScope.Text.Markup

/-!
Markup and its pieces. A list of pieces is what some text is read as exactly if every tag in it has a
body that may stand between brackets, no literal bracket begins a tag, and no literal backslash comes
right before a tag. So the pieces of a text that is put together from others are found by putting
together pieces, as long as nothing changes at the seams.
-/
namespace ModuleScope.Text

def IsTagBody (body : List Char) : Prop :=
  body.head?.any isTagStart = true ∧ '[' ∉ body ∧ ']' ∉ body

instance (body : List Char) : Decidable (IsTagBody body) := inferInstanceAs (Decidable (_ ∧ _))

/-- Characters that show themselves wherever they stand in markup. -/
structure IsPlain (c : Char) : Prop where
  unopened : c ≠ '['
  unclosed : c ≠ ']'
  unescaped : c ≠ '\\'
  visible : isControl c = false

theorem isPlain_iff {c : Char} :
    IsPlain c ↔ c ≠ '[' ∧ c ≠ ']' ∧ c ≠ '\\' ∧ isControl c = false :=
  ⟨fun plain => ⟨plain.unopened, plain.unclosed, plain.unescaped, plain.visible⟩,
    fun ⟨unopened, unclosed, unescaped, visible⟩ => ⟨unopened, unclosed, unescaped, visible⟩⟩

instance (c : Char) : Decidable (IsPlain c) := decidable_of_iff _ isPlain_iff.symm

section Controls

variable {text : List Char}

theorem dropControls_append (left right : List Char) :
    dropControls (left ++ right) = dropControls left ++ dropControls right := List.filter_append ..

theorem dropControls_cons (c : Char) (rest : List Char) :
    dropControls (c :: rest) = if isControl c = true then dropControls rest else c :: dropControls rest := by
  rw [dropControls, List.filter_cons]
  cases isControl c <;> rfl

theorem dropControls_of_visible (visible : ∀ c ∈ text, isControl c = false) : dropControls text = text := by
  apply List.filter_eq_self.mpr
  intro c member
  rw [visible c member]
  rfl

theorem visible_of_mem_dropControls {c : Char} (member : c ∈ dropControls text) : isControl c = false := by
  simpa using (List.mem_filter.mp member).2

end Controls

theorem not_bracket_of_isTagStart {c : Char} (starts : isTagStart c = true) : c ≠ '[' ∧ c ≠ ']' := by
  constructor <;> rintro rfl <;> exact absurd starts (by decide)

section Brackets

variable {text more body : List Char}

theorem upToBracket_eq_some_iff :
    upToBracket text = some body ↔
      ∃ rest, text = body ++ ']' :: rest ∧ '[' ∉ body ∧ ']' ∉ body := by
  induction text generalizing body with
  | nil => simp [upToBracket]
  | cons c others ih =>
    rw [upToBracket]
    by_cases closing : c = ']'
    · subst closing
      cases body with
      | nil => simp
      | cons first inner =>
        refine ⟨by rintro ⟨⟩, ?_⟩
        rintro ⟨rest, whole, _, unclosed⟩
        exact absurd ((List.cons.inj whole).1 ▸ List.mem_cons_self) unclosed
    · by_cases opening : c = '['
      · subst opening
        refine ⟨by rintro ⟨⟩, ?_⟩
        rintro ⟨rest, whole, unopened, _⟩
        cases body with
        | nil => cases whole
        | cons first inner => exact absurd ((List.cons.inj whole).1 ▸ List.mem_cons_self) unopened
      · rw [if_neg (by simpa using closing), if_neg (by simpa using opening)]
        cases body with
        | nil => simp [closing]
        | cons first inner =>
          simp only [Option.map_eq_some_iff, List.cons.injEq, List.cons_append, List.mem_cons]
          constructor
          · rintro ⟨found, reached, rfl, rfl⟩
            obtain ⟨rest, rfl, unopened, unclosed⟩ := ih.mp reached
            exact ⟨rest, ⟨rfl, rfl⟩, by simp [Ne.symm opening, unopened], by simp [Ne.symm closing, unclosed]⟩
          · rintro ⟨rest, ⟨rfl, rfl⟩, unopened, unclosed⟩
            exact ⟨inner, ih.mpr ⟨rest, rfl, by simp_all, by simp_all⟩, rfl, rfl⟩

theorem upToBracket_of_plain (plain : ∀ c ∈ text, IsPlain c) : upToBracket text = none := by
  rw [Option.eq_none_iff_forall_ne_some]
  intro body found
  obtain ⟨rest, rfl, _⟩ := upToBracket_eq_some_iff.mp found
  exact (plain ']' (by simp)).unclosed rfl

theorem upToBracket_append (opens : upToBracket more = none) :
    upToBracket (text ++ more) = upToBracket text := by
  induction text with
  | nil => simpa [upToBracket] using opens
  | cons c rest ih => simp only [List.cons_append, upToBracket, ih]

theorem tagBody?_eq_some_iff :
    tagBody? text = some body ↔ IsTagBody body ∧ ∃ rest, text = body ++ ']' :: rest := by
  cases text with
  | nil => simp [tagBody?]
  | cons c others =>
    rw [tagBody?]
    split
    · next starts =>
      have bracket := not_bracket_of_isTagStart starts
      simp only [Option.map_eq_some_iff, upToBracket_eq_some_iff]
      constructor
      · rintro ⟨inner, ⟨rest, rfl, unopened, unclosed⟩, rfl⟩
        refine ⟨⟨by simpa using starts, ?_, ?_⟩, rest, rfl⟩
        · simp [Ne.symm bracket.1, unopened]
        · simp [Ne.symm bracket.2, unclosed]
      · rintro ⟨⟨first, unopened, unclosed⟩, rest, whole⟩
        cases body with
        | nil => simp at first
        | cons d inner =>
          obtain ⟨rfl, rfl⟩ := List.cons.inj whole
          exact ⟨inner, ⟨rest, rfl, by simp_all, by simp_all⟩, rfl⟩
    · next other =>
      constructor
      · rintro ⟨⟩
      · rintro ⟨⟨first, _⟩, rest, whole⟩
        cases body with
        | nil => simp at first
        | cons d inner =>
          obtain ⟨rfl, rfl⟩ := List.cons.inj whole
          exact absurd (by simpa using first) other

/-- A text whose first bracket, if there is one, opens completes no tag before it. -/
theorem tagBody?_append (opens : upToBracket more = none) :
    tagBody? (text ++ more) = tagBody? text := by
  cases text with
  | cons c rest => simp only [List.cons_append, tagBody?, upToBracket_append opens]
  | nil =>
    rw [List.nil_append, tagBody?]
    cases more with
    | nil => rfl
    | cons c rest =>
      rw [tagBody?]
      split
      · next starts =>
        have bracket := not_bracket_of_isTagStart starts
        simp only [upToBracket, beq_iff_eq, bracket.1, bracket.2, if_false] at opens
        rw [Option.map_eq_none_iff.mp opens, Option.map_none]
      · rfl

theorem upToBracket_backslashes (count : Nat) (rest : List Char) :
    upToBracket (List.replicate count '\\' ++ '[' :: rest) = none := by
  induction count with
  | zero => rfl
  | succ count ih => simpa [List.replicate_succ, upToBracket] using ih

end Brackets

def written (pieces : List MarkupPiece) : List Char := pieces.flatMap MarkupPiece.written

section Written

variable (left right : List MarkupPiece) (c : Char) (count : Nat) (body text : List Char)

@[simp] theorem written_nil : written [] = [] := rfl

@[simp] theorem written_literal : written (.literal c :: right) = c :: written right := rfl

@[simp] theorem written_tag :
    written (.tag count body :: right) =
      List.replicate count '\\' ++ '[' :: (body ++ ']' :: written right) := by
  simp [written, MarkupPiece.written]

@[simp] theorem written_append : written (left ++ right) = written left ++ written right :=
  List.flatMap_append

@[simp] theorem written_literals : written (text.map .literal) = text := by
  induction text with
  | nil => rfl
  | cons c rest ih => rw [List.map_cons, written_literal, ih]

@[simp] theorem written_replicate :
    written (List.replicate count (.literal c)) = List.replicate count c := by
  rw [← List.map_replicate, written_literals]

end Written

def beginsWithTag : List MarkupPiece → Bool
  | .tag _ _ :: _ => true
  | _ => false

inductive Parsed : List MarkupPiece → Prop
  | nil : Parsed []
  | literal {c : Char} {rest : List MarkupPiece} (opening : c = '[' → tagBody? (written rest) = none)
      (escaping : c = '\\' → beginsWithTag rest = false) (others : Parsed rest) :
      Parsed (.literal c :: rest)
  | tag {count : Nat} {body : List Char} {rest : List MarkupPiece} (isBody : IsTagBody body)
      (others : Parsed rest) : Parsed (.tag count body :: rest)

section Reading

variable {pieces others : List MarkupPiece}

theorem markupPiecesFrom_skip (skipped rest : List Char) :
    markupPiecesFrom skipped.length 0 (skipped ++ rest) = markupPieces rest := by
  induction skipped with
  | nil => rfl
  | cons c skipped ih => exact ih

theorem markupPiecesFrom_backslash (pending : Nat) (rest : List Char) :
    markupPiecesFrom 0 pending ('\\' :: rest) = markupPiecesFrom 0 (pending + 1) rest := rfl

theorem markupPiecesFrom_backslashes (pending count : Nat) (rest : List Char) :
    markupPiecesFrom 0 pending (List.replicate count '\\' ++ rest) =
      markupPiecesFrom 0 (pending + count) rest := by
  induction count generalizing pending with
  | zero => rfl
  | succ count ih =>
    rw [List.replicate_succ, List.cons_append, markupPiecesFrom_backslash, ih, Nat.add_assoc,
      Nat.add_comm 1]

theorem markupPiecesFrom_tag {body : List Char} (isBody : IsTagBody body) (pending : Nat)
    (rest : List Char) :
    markupPiecesFrom 0 pending ('[' :: (body ++ ']' :: rest)) =
      .tag pending body :: markupPieces rest := by
  have found : tagBody? (body ++ ']' :: rest) = some body := tagBody?_eq_some_iff.mpr ⟨isBody, rest, rfl⟩
  have passed := markupPiecesFrom_skip (body ++ [']']) rest
  rw [List.length_append, List.append_assoc] at passed
  simp only [markupPiecesFrom, beq_iff_eq, Char.reduceEq, if_false, if_true, found]
  exact congrArg _ passed

theorem markupPiecesFrom_literal {c : Char} {rest : List Char} (other : c ≠ '\\')
    (opening : c = '[' → tagBody? rest = none) (pending : Nat) :
    markupPiecesFrom 0 pending (c :: rest) =
      List.replicate pending (.literal '\\') ++ .literal c :: markupPieces rest := by
  have none : (if c == '[' then tagBody? rest else none) = none := by
    split
    · next bracket => exact opening (by simpa using bracket)
    · rfl
  rw [markupPiecesFrom, if_neg (by simpa using other), none]
  rfl

theorem markupPiecesFrom_of_parsed (parsed : Parsed pieces) {pending : Nat}
    (free : pending = 0 ∨ beginsWithTag pieces = false) :
    markupPiecesFrom 0 pending (written pieces) = List.replicate pending (.literal '\\') ++ pieces := by
  induction parsed generalizing pending with
  | nil => simp [markupPiecesFrom]
  | @literal c rest opening escaping _ ih =>
    rw [written_literal]
    by_cases backslash : c = '\\'
    · subst backslash
      rw [markupPiecesFrom_backslash, ih (Or.inr (escaping rfl)), List.replicate_succ', List.append_assoc]
      rfl
    · rw [markupPiecesFrom_literal backslash opening]
      exact congrArg (_ ++ .literal c :: ·) (ih (Or.inl rfl))
  | @tag count body rest isBody _ ih =>
    obtain rfl : pending = 0 := by simpa [beginsWithTag] using free
    rw [written_tag, markupPiecesFrom_backslashes, markupPiecesFrom_tag isBody, Nat.zero_add]
    exact congrArg (.tag count body :: ·) (ih (Or.inl rfl))

theorem markupPieces_written (parsed : Parsed pieces) : markupPieces (written pieces) = pieces :=
  markupPiecesFrom_of_parsed parsed (Or.inl rfl)

theorem Parsed.backslashes (parsed : Parsed pieces) (free : beginsWithTag pieces = false) (count : Nat) :
    Parsed (List.replicate count (.literal '\\') ++ pieces) := by
  induction count with
  | zero => exact parsed
  | succ count ih =>
    refine .literal (by rintro ⟨⟩) (fun _ => ?_) ih
    cases count with
    | zero => exact free
    | succ count => rfl

theorem markupPiecesFrom_spec (text : List Char) (pending : Nat) :
    Parsed (markupPiecesFrom 0 pending text) ∧
      written (markupPiecesFrom 0 pending text) = List.replicate pending '\\' ++ text := by
  -- A tag takes up many characters at once, so the induction is on the length.
  induction length : text.length using Nat.strong_induction_on generalizing text pending with
  | _ _ ih =>
    subst length
    cases text with
    | nil =>
      rw [markupPiecesFrom, written_replicate, List.append_nil]
      exact ⟨by simpa using Parsed.nil.backslashes rfl pending, rfl⟩
    | cons c rest =>
      by_cases backslash : c = '\\'
      · subst backslash
        obtain ⟨parsed, same⟩ := ih rest.length (by simp) rest (pending + 1) rfl
        rw [markupPiecesFrom_backslash, same, List.replicate_succ', List.append_assoc]
        exact ⟨parsed, rfl⟩
      · by_cases opens : ∃ body, c = '[' ∧ tagBody? rest = some body
        · obtain ⟨body, rfl, found⟩ := opens
          obtain ⟨isBody, after, rfl⟩ := tagBody?_eq_some_iff.mp found
          obtain ⟨parsed, same⟩ := ih after.length (by simp; omega) after 0 rfl
          rw [markupPiecesFrom_tag isBody, written_tag, markupPieces, same]
          exact ⟨.tag isBody parsed, rfl⟩
        · have opening : c = '[' → tagBody? rest = none := by
            intro bracket
            rw [Option.eq_none_iff_forall_ne_some]
            intro body found
            exact opens ⟨body, bracket, found⟩
          obtain ⟨parsed, same⟩ := ih rest.length (by simp) rest 0 rfl
          have literal : Parsed (.literal c :: markupPieces rest) :=
            .literal (by rwa [markupPieces, same]) (fun h => absurd h backslash) parsed
          rw [markupPiecesFrom_literal backslash opening]
          refine ⟨literal.backslashes rfl pending, ?_⟩
          rw [written_append, written_replicate, written_literal, markupPieces, same]
          rfl

theorem parsed_markupPieces (text : List Char) : Parsed (markupPieces text) :=
  (markupPiecesFrom_spec text 0).1

@[simp] theorem written_markupPieces (text : List Char) : written (markupPieces text) = text :=
  (markupPiecesFrom_spec text 0).2

/-- Pieces may follow others if what they are written as completes no tag and escapes none of theirs. -/
theorem Parsed.append (parsed : Parsed pieces) (further : Parsed others)
    (opens : upToBracket (written others) = none)
    (seam : pieces.getLast? = some (.literal '\\') → beginsWithTag others = false) :
    Parsed (pieces ++ others) := by
  induction parsed with
  | nil => exact further
  | @literal c rest opening escaping _ ih =>
    rw [List.cons_append]
    refine .literal (fun bracket => ?_) (fun backslash => ?_) (ih fun last => seam ?_)
    · rw [written_append, tagBody?_append opens]
      exact opening bracket
    · cases rest with
      | nil => exact seam (by rw [backslash]; rfl)
      | cons piece rest =>
        cases piece with
        | literal d => rfl
        | tag count body => cases escaping backslash
    · rw [List.getLast?_cons, last]
      rfl
  | @tag count body rest isBody _ ih =>
    refine .tag isBody (ih fun last => seam ?_)
    rw [List.getLast?_cons, last]
    rfl

theorem Parsed.literals {text : List Char} (plain : ∀ c ∈ text, c ≠ '[' ∧ c ≠ '\\')
    (parsed : Parsed pieces) : Parsed (text.map .literal ++ pieces) := by
  induction text with
  | nil => exact parsed
  | cons c rest ih =>
    have first := plain c List.mem_cons_self
    exact .literal (fun bracket => absurd bracket first.1) (fun backslash => absurd backslash first.2)
      (ih fun d member => plain d (List.mem_cons_of_mem c member))

end Reading

def shown? (rules : TagRules) (opened : List OpenTag) (pieces : List MarkupPiece) : Option (List Char) :=
  (renderPieces rules 0 opened pieces).toOption

def opened? (rules : TagRules) (opened : List OpenTag) (body : List Char) : Option (List OpenTag) :=
  (applyTag rules 0 body opened).toOption

section Showing

variable (rules : TagRules) (opened : List OpenTag) (rest : List MarkupPiece) (c : Char) (count : Nat)
  (body : List Char)

theorem toOption_applyTag (position : Nat) :
    (applyTag rules position body opened).toOption = opened? rules opened body := by
  unfold opened? applyTag
  split
  · dsimp only
    split
    · cases opened <;> rfl
    · cases rules.normalForm _ with
      | error fault => rfl
      | ok name =>
        dsimp only [Except.bind]
        split <;> rfl
  · rfl

theorem toOption_bind {α β ε : Type} (first : Except ε α) (next : α → Except ε β) :
    (first >>= next).toOption = first.toOption.bind fun value => (next value).toOption := by
  cases first <;> rfl

theorem toOption_literal (position : Nat) :
    (renderPieces rules position opened (.literal c :: rest)).toOption =
      (renderPieces rules (position + 1) opened rest).toOption.map fun shown =>
        if c = '\\' ∧ rest.head? = some (.literal '[') then shown else c :: shown := by
  rw [renderPieces, toOption_bind, Option.map_eq_bind]
  congr 1
  funext shown
  split
  · simp [pure, Except.pure, Except.toOption]
  · next other =>
    have kept : ¬ (c = '\\' ∧ rest.head? = some (.literal '[')) := by
      rintro ⟨rfl, first⟩
      obtain ⟨more, rfl⟩ := List.head?_eq_some_iff.mp first
      exact other more rfl rfl
    rw [Function.comp_apply, if_neg kept]
    rfl

theorem toOption_tag (position : Nat) :
    ∃ next, (renderPieces rules position opened (.tag count body :: rest)).toOption =
      if count % 2 = 1 then
        (renderPieces rules next opened rest).toOption.map fun shown =>
          List.replicate (count / 2) '\\' ++ '[' :: (body ++ ']' :: shown)
      else (opened? rules opened body).bind fun opened =>
        (renderPieces rules next opened rest).toOption.map (List.replicate (count / 2) '\\' ++ ·) := by
  refine ⟨position + count + body.length + 2, ?_⟩
  rw [renderPieces]
  by_cases odd : count % 2 = 1
  · rw [if_pos (by simpa using odd), if_pos odd, toOption_bind, Option.map_eq_bind]
    simp [pure, Except.pure, Except.toOption, Function.comp_def]
  · rw [if_neg (by simpa using odd), if_neg odd, toOption_bind, toOption_applyTag]
    simp only [toOption_bind, Option.map_eq_bind]
    rfl

theorem toOption_renderPieces (position : Nat) (pieces : List MarkupPiece) :
    (renderPieces rules position opened pieces).toOption = shown? rules opened pieces := by
  unfold shown?
  generalize 0 = start
  induction pieces generalizing position start opened with
  | nil => rfl
  | cons piece rest ih =>
    cases piece with
    | literal c => rw [toOption_literal, toOption_literal, ih opened (position + 1) (start + 1)]
    | tag count body =>
      obtain ⟨next, shown⟩ := toOption_tag rules opened rest count body position
      obtain ⟨next', shown'⟩ := toOption_tag rules opened rest count body start
      rw [shown, shown']
      simp only [ih _ next next']

@[simp] theorem shown?_nil : shown? rules opened [] = some [] := rfl

/-- A backslash before a bracket that begins no tag is not shown. -/
theorem shown?_literal :
    shown? rules opened (.literal c :: rest) = (shown? rules opened rest).map fun shown =>
      if c = '\\' ∧ rest.head? = some (.literal '[') then shown else c :: shown := by
  rw [shown?, toOption_literal, toOption_renderPieces]

theorem shown?_tag :
    shown? rules opened (.tag count body :: rest) =
      if count % 2 = 1 then
        (shown? rules opened rest).map fun shown =>
          List.replicate (count / 2) '\\' ++ '[' :: (body ++ ']' :: shown)
      else (opened? rules opened body).bind fun opened =>
        (shown? rules opened rest).map (List.replicate (count / 2) '\\' ++ ·) := by
  obtain ⟨next, shown⟩ := toOption_tag rules opened rest count body 0
  rw [shown?, shown]
  simp only [toOption_renderPieces]

/-- Characters other than brackets show themselves, except for backslashes right before what follows. -/
theorem shown?_literals {text : List Char} (unopened : '[' ∉ text) (last : text.getLast? ≠ some '\\') :
    shown? rules opened (text.map .literal ++ rest) = (shown? rules opened rest).map (text ++ ·) := by
  induction text with
  | nil => simp
  | cons c others ih =>
    rw [List.mem_cons, not_or] at unopened
    have further : others.getLast? ≠ some '\\' := by
      intro ends
      rw [List.getLast?_cons, ends] at last
      exact last rfl
    have kept : ¬ (c = '\\' ∧ (others.map MarkupPiece.literal ++ rest).head? = some (.literal '[')) := by
      rintro ⟨rfl, first⟩
      cases others with
      | nil => exact last rfl
      | cons d more => simp_all
    rw [List.map_cons, List.cons_append, shown?_literal, ih unopened.2 further, Option.map_map]
    simp only [kept, if_false]
    rfl

theorem shown?_plain {text : List Char} (plain : ∀ c ∈ text, IsPlain c) :
    shown? rules opened (text.map .literal ++ rest) = (shown? rules opened rest).map (text ++ ·) := by
  apply shown?_literals
  · exact fun member => (plain _ member).unopened rfl
  · exact fun last => (plain _ (List.mem_of_getLast? last)).unescaped rfl

theorem toOption_renderBy (markup : String) :
    (renderBy rules markup).toOption =
      (shown? rules [] (markupPieces markup.toList)).map fun shown => String.ofList (dropControls shown) := by
  rw [renderBy, shown?]
  cases renderPieces rules 0 [] (markupPieces markup.toList) <;> rfl

end Showing

end ModuleScope.Text
