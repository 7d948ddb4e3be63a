import Mathlib
import ModuleScope.Proofs.WordPositions
import ModuleScope.Text.Integer

/-!
How integers are written. A numeral has blanks around it, at most one sign and a run of digits, in which
single underscores may stand between two digits; the reader of integers accepts the numerals and nothing
else.
-/
namespace ModuleScope.Text

/-- A run of digits with their values. An underscore may stand between two digits. -/
inductive DigitRun : List Char → List Nat → Prop
  | last {c : Char} {value : Nat} (digit : digit? c = some value) : DigitRun [c] [value]
  | next {c : Char} {value : Nat} {rest : List Char} {values : List Nat}
      (digit : digit? c = some value) (others : DigitRun rest values) :
      DigitRun (c :: rest) (value :: values)
  | spaced {c : Char} {value : Nat} {rest : List Char} {values : List Nat}
      (digit : digit? c = some value) (others : DigitRun rest values) :
      DigitRun (c :: '_' :: rest) (value :: values)

/-- A text writes an integer: blanks, perhaps a sign, digits that are not too many, and blanks. -/
def IsNumeral (text : List Char) (value : Int) : Prop :=
  ∃ left sign digits right values, text = left ++ (sign ++ digits) ++ right ∧
    (∀ c ∈ left ++ right, isMargin c = true) ∧ sign ∈ [[], ['+'], ['-']] ∧ DigitRun digits values ∧
    values.length ≤ digitLimit ∧
    value = if sign = ['-'] then -(ofDigits values : Int) else ofDigits values

section Digits

variable {text rest : List Char} {values : List Nat} {c : Char}

theorem digit?_of_isBlank (blank : isBlank c = true) : digit? c = none := by
  have apart : ∀ first ∈ zeros, ∀ n ∈ [9, 10, 11, 12, 13, 0x1C, 0x1D, 0x1E, 0x1F, 0x20, 0x85, 0xA0, 0x1680,
      0x2000, 0x2001, 0x2002, 0x2003, 0x2004, 0x2005, 0x2006, 0x2007, 0x2008, 0x2009, 0x200A, 0x2028, 0x2029,
      0x202F, 0x205F, 0x3000], ¬ (first ≤ n ∧ n < first + 10) := by
    decide
  have listed : c.toNat ∈ [9, 10, 11, 12, 13, 0x1C, 0x1D, 0x1E, 0x1F, 0x20, 0x85, 0xA0, 0x1680,
      0x2000, 0x2001, 0x2002, 0x2003, 0x2004, 0x2005, 0x2006, 0x2007, 0x2008, 0x2009, 0x200A, 0x2028, 0x2029,
      0x202F, 0x205F, 0x3000] := by
    simp only [isBlank, Bool.or_eq_true, Bool.and_eq_true, decide_eq_true_eq, beq_iff_eq] at blank
    simp only [List.mem_cons, List.not_mem_nil, or_false]
    omega
  rw [digit?, Option.map_eq_none_iff, List.find?_eq_none]
  intro first member
  simpa using apart first member c.toNat listed

theorem isMargin_of_digit {value : Nat} (digit : digit? c = some value) : isMargin c = false := by
  rw [Bool.eq_false_iff]
  intro margin
  rw [isMargin, Bool.and_eq_true] at margin
  rw [digit?_of_isBlank margin.1] at digit
  cases digit

theorem DigitRun.exists_head (run : DigitRun text values) :
    ∃ c value, text.head? = some c ∧ digit? c = some value := by
  cases run with
  | last digit => exact ⟨_, _, rfl, digit⟩
  | next digit _ => exact ⟨_, _, rfl, digit⟩
  | spaced digit _ => exact ⟨_, _, rfl, digit⟩

theorem DigitRun.exists_last (run : DigitRun text values) :
    ∃ c value, text.getLast? = some c ∧ digit? c = some value := by
  induction run with
  | last digit => exact ⟨_, _, rfl, digit⟩
  | next _ _ ih =>
    obtain ⟨c, value, last, digit⟩ := ih
    exact ⟨c, value, by rw [List.getLast?_cons, last]; rfl, digit⟩
  | spaced _ _ ih =>
    obtain ⟨c, value, last, digit⟩ := ih
    exact ⟨c, value, by rw [List.getLast?_cons, List.getLast?_cons, last]; rfl, digit⟩

theorem digits?_eq_some_iff : digits? text = some values ↔ DigitRun text values := by
  constructor
  · intro read
    fun_induction digits? text generalizing values with
    | case1 => cases read
    | case2 c =>
      obtain ⟨value, digit, rfl⟩ := Option.map_eq_some_iff.mp read
      exact .last digit
    | case3 c rest ih =>
      simp only [Option.bind_eq_bind, Option.bind_eq_some_iff, Option.pure_def, Option.some.injEq] at read
      obtain ⟨value, digit, others, found, rfl⟩ := read
      exact .spaced digit (ih found)
    | case4 c rest _ _ ih =>
      simp only [Option.bind_eq_bind, Option.bind_eq_some_iff, Option.pure_def, Option.some.injEq] at read
      obtain ⟨value, digit, others, found, rfl⟩ := read
      exact .next digit (ih found)
  · intro run
    induction run with
    | last digit => simp [digits?, digit]
    | @next c value rest values digit others ih =>
      obtain ⟨d, _, first, starts⟩ := others.exists_head
      obtain ⟨more, rfl⟩ := List.head?_eq_some_iff.mp first
      have underscore : digit? '_' = none := by decide
      have other : d ≠ '_' := by
        rintro rfl
        rw [underscore] at starts
        cases starts
      rw [digits?, digit, ih]
      · rfl
      · simp
      · exact fun rest same => other (List.cons.inj same).1
    | spaced digit _ ih => simp [digits?, digit, ih]

theorem natural?_eq_some_iff {value : Nat} :
    natural? text = some value ↔
      ∃ values, DigitRun text values ∧ values.length ≤ digitLimit ∧ value = ofDigits values := by
  simp only [natural?, Option.bind_eq_bind, Option.bind_eq_some_iff, digits?_eq_some_iff, Option.pure_def,
    Option.some.injEq, guard]
  refine exists_congr fun values => and_congr_right fun run => ?_
  split
  · next bounded => simp [bounded, eq_comm]
  · next long => simp [long]

end Digits

section Trimming

variable {drop : Char → Bool}

theorem exists_trimBoth (drop : Char → Bool) (text : List Char) :
    ∃ left right, text = left ++ trimBoth drop text ++ right ∧ ∀ c ∈ left ++ right, drop c = true := by
  have front := List.takeWhile_append_dropWhile (p := drop) (l := text)
  have back := List.takeWhile_append_dropWhile (p := drop) (l := (text.dropWhile drop).reverse)
  refine ⟨text.takeWhile drop, ((text.dropWhile drop).reverse.takeWhile drop).reverse, ?_, ?_⟩
  · rw [trimBoth, trimEnd, List.append_assoc, ← List.reverse_append, back, List.reverse_reverse, front]
  · intro c member
    rcases List.mem_append.mp member with inside | inside
    · exact List.mem_takeWhile_imp inside
    · exact List.mem_takeWhile_imp (List.mem_reverse.mp inside)

theorem trimBoth_of_kept {left text right : List Char} (margins : ∀ c ∈ left ++ right, drop c = true)
    (first : ∃ c ∈ text.head?, drop c = false) (last : ∃ c ∈ text.getLast?, drop c = false) :
    trimBoth drop (left ++ text ++ right) = text := by
  obtain ⟨c, starts, kept⟩ := first
  obtain ⟨rest, rfl⟩ := List.head?_eq_some_iff.mp starts
  obtain ⟨d, ends, kept'⟩ := last
  have closing : trimEnd drop right = [] := by
    rw [trimEnd, List.reverse_eq_nil_iff, List.dropWhile_eq_nil_iff]
    intro e member
    exact margins e (List.mem_append_right _ (List.mem_reverse.mp member))
  rw [trimBoth, List.append_assoc,
    List.dropWhile_append_of_pos fun e member => margins e (List.mem_append_left _ member),
    List.cons_append, List.dropWhile_cons_of_neg (by simp [kept]), ← List.cons_append,
    trimEnd_append, closing, List.append_nil]
  intro e found
  rw [Option.mem_def.mp ends, Option.mem_some_iff] at found
  rw [← found, kept']

end Trimming

/-- The reader of integers accepts the numerals and reads what they write. -/
theorem integer?_eq_some_iff {text : String} {value : Int} :
    integer? text = some value ↔ IsNumeral text.toList value := by
  constructor
  · intro read
    obtain ⟨left, right, parts, margins⟩ := exists_trimBoth isMargin text.toList
    rw [integer?] at read
    simp only [Option.bind_eq_bind, Option.pure_def] at read
    split at read <;> simp only [Option.map_eq_some_iff, Option.bind_eq_some_iff, Option.some.injEq] at read
    · next rest trimmed =>
      obtain ⟨_, ⟨number, found, rfl⟩, rfl⟩ := read
      obtain ⟨values, run, bounded, rfl⟩ := natural?_eq_some_iff.mp found
      exact ⟨left, ['-'], rest, right, values, by rw [parts, trimmed]; rfl, margins, by simp, run, bounded, rfl⟩
    · next rest trimmed =>
      obtain ⟨_, ⟨number, found, rfl⟩, rfl⟩ := read
      obtain ⟨values, run, bounded, rfl⟩ := natural?_eq_some_iff.mp found
      exact ⟨left, ['+'], rest, right, values, by rw [parts, trimmed]; rfl, margins, by simp, run, bounded, rfl⟩
    · obtain ⟨_, ⟨number, found, rfl⟩, rfl⟩ := read
      obtain ⟨values, run, bounded, rfl⟩ := natural?_eq_some_iff.mp found
      exact ⟨left, [], _, right, values, by rw [List.nil_append]; exact parts, margins, by simp, run, bounded, rfl⟩
  · rintro ⟨left, sign, digits, right, values, parts, margins, signed, run, bounded, rfl⟩
    obtain ⟨first, _, starts, digit⟩ := run.exists_head
    obtain ⟨last, _, ends, digit'⟩ := run.exists_last
    have trimmed : trimBoth isMargin text.toList = sign ++ digits := by
      rw [parts]
      refine trimBoth_of_kept margins ?_ ⟨last, ?_, isMargin_of_digit digit'⟩
      · simp only [List.mem_cons, List.not_mem_nil, or_false] at signed
        rcases signed with rfl | rfl | rfl
        · exact ⟨first, starts, isMargin_of_digit digit⟩
        · exact ⟨'+', rfl, by decide⟩
        · exact ⟨'-', rfl, by decide⟩
      · rw [List.getLast?_append, ends]
        rfl
    have read := natural?_eq_some_iff.mpr ⟨values, run, bounded, rfl⟩
    rw [integer?, trimmed]
    simp only [List.mem_cons, List.not_mem_nil, or_false] at signed
    rcases signed with rfl | rfl | rfl
    · obtain ⟨rest, rfl⟩ := List.head?_eq_some_iff.mp starts
      rw [List.nil_append]
      have unsigned : digit? '-' = none ∧ digit? '+' = none := by decide
      split
      · next same => simp [(List.cons.inj same).1, unsigned.1] at digit
      · next same => simp [(List.cons.inj same).1, unsigned.2] at digit
      · rw [read]
        rfl
    · simp [read]
    · simp [read]

end ModuleScope.Text
