/-!
Positions and ranges in a text, counted in lines and characters from zero.
-/
namespace ModuleScope

/-- A line and a character of that line. Callers may name places outside the text, so both are
integers. -/
structure Position where
  line : Int
  character : Int
deriving DecidableEq, Repr

namespace Position

protected def le (left right : Position) : Prop :=
  left.line < right.line ∨ left.line = right.line ∧ left.character ≤ right.character

protected def lt (left right : Position) : Prop :=
  left.line < right.line ∨ left.line = right.line ∧ left.character < right.character

instance : LE Position := ⟨Position.le⟩

instance : LT Position := ⟨Position.lt⟩

instance (left right : Position) : Decidable (left ≤ right) :=
  inferInstanceAs (Decidable (_ ∨ _))

instance (left right : Position) : Decidable (left < right) :=
  inferInstanceAs (Decidable (_ ∨ _))

end Position

structure Range where
  start : Position
  stop : Position
deriving DecidableEq, Repr

namespace Range

def contains (range : Range) (position : Position) : Bool :=
  range.start ≤ position && position < range.stop

end Range

end ModuleScope
