import Mathlib
import ModuleScope.FileSystem.Pattern
import ModuleScope.Document

/-!
What the patterns of source files and of module files match. Both look only at the last component of a
path, and a name that ends like a module file ends like a source file.
-/
namespace ModuleScope

theorem matchesName_literal {literal : List Char} (plain : ∀ c ∈ literal, c ≠ '*' ∧ c ≠ '?')
    (name : List Char) : matchesName literal name = true ↔ literal = name := by
  induction literal generalizing name with
  | nil => cases name <;> simp [matchesName]
  | cons expected rest ih =>
    obtain ⟨star, mark⟩ := plain expected (by simp)
    cases name with
    | nil => simp [matchesName]
    | cons c name =>
      simp [matchesName, ih fun c member => plain c (List.mem_cons_of_mem expected member)]

theorem matchesName_star {literal : List Char} (plain : ∀ c ∈ literal, c ≠ '*' ∧ c ≠ '?')
    (name : List Char) : matchesName ('*' :: literal) name = true ↔ literal <:+ name := by
  induction name with
  | nil =>
    rw [matchesName, matchesName_literal plain, List.suffix_nil]
  | cons c name ih =>
    rw [matchesName, Bool.or_eq_true, matchesName_literal plain, ih, List.suffix_cons_iff]

/-- A pattern for any directory decides by the last component. -/
theorem matchesParts_anywhere {pattern : String} (other : pattern ≠ "**") (front : List String)
    (last : String) :
    matchesParts ["**", pattern] (front ++ [last]) = matchesName pattern.toList last.toList := by
  induction front with
  | nil => simp [matchesParts]
  | cons first rest ih =>
    have more : (rest ++ [last]).isEmpty = false := by simp
    rw [List.cons_append, matchesParts, ih, more]
    simp [matchesParts]

theorem matchesAny_source (front : List String) (last : String) :
    matchesAny sourcePatterns (front ++ [last]) = true ↔
      ".ts".toList <:+ last.toList ∨ ".tsx".toList <:+ last.toList := by
  have first : Path.components "**/*.ts" = ["**", "*.ts"] := by decide
  have second : Path.components "**/*.tsx" = ["**", "*.tsx"] := by decide
  have ts : "*.ts".toList = '*' :: ".ts".toList := by simp
  have tsx : "*.tsx".toList = '*' :: ".tsx".toList := by simp
  rw [matchesAny, sourcePatterns, List.any_cons, List.any_cons, List.any_nil, first, second,
    matchesParts_anywhere (by decide), matchesParts_anywhere (by decide), Bool.or_false,
    Bool.or_eq_true, ts, tsx, matchesName_star (by simp), matchesName_star (by simp)]

theorem matchesAny_module (front : List String) (last : String) :
    matchesAny modulePatterns (front ++ [last]) = true ↔ ".module.ts".toList <:+ last.toList := by
  have pattern : Path.components "**/*.module.ts" = ["**", "*.module.ts"] := by decide
  have ending : "*.module.ts".toList = '*' :: ".module.ts".toList := by simp
  rw [matchesAny, modulePatterns, List.any_cons, List.any_nil, pattern,
    matchesParts_anywhere (by decide), Bool.or_false, ending, matchesName_star (by simp)]

end ModuleScope
