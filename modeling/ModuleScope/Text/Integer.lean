import ModuleScope.Text.Basic

/-!
Decimal integers as people write them: blanks around, one sign, digits of any script, and single
underscores between digits. Every script that has digits has them as ten characters in a row.
-/
namespace ModuleScope.Text

def zeros : List Nat :=
  [0x30, 0x660, 0x6F0, 0x7C0, 0x966, 0x9E6, 0xA66, 0xAE6, 0xB66, 0xBE6, 0xC66, 0xCE6, 0xD66,
   0xDE6, 0xE50, 0xED0, 0xF20, 0x1040, 0x1090, 0x17E0, 0x1810, 0x1946, 0x19D0, 0x1A80, 0x1A90,
   0x1B50, 0x1BB0, 0x1C40, 0x1C50, 0xA620, 0xA8D0, 0xA900, 0xA9D0, 0xA9F0, 0xAA50, 0xABF0,
   0xFF10, 0x104A0, 0x10D30, 0x11066, 0x110F0, 0x11136, 0x111D0, 0x112F0, 0x11450, 0x114D0,
   0x11650, 0x116C0, 0x11730, 0x118E0, 0x11950, 0x11C50, 0x11D50, 0x11DA0, 0x16A60, 0x16AC0,
   0x16B50, 0x1D7CE, 0x1D7D8, 0x1D7E2, 0x1D7EC, 0x1D7F6, 0x1E140, 0x1E2F0, 0x1E950, 0x1FBF0]

def digit? (c : Char) : Option Nat :=
  (zeros.find? fun first => first ≤ c.toNat && c.toNat < first + 10).map fun first => c.toNat - first

/-- Blanks that may stand around a number: all but the separator controls. -/
def isMargin (c : Char) : Bool := isBlank c && !(0x1C ≤ c.toNat && c.toNat ≤ 0x1F)

/-- The values of the digits; an underscore may only stand between two of them. -/
def digits? : List Char → Option (List Nat)
  | [] => none
  | [c] => (digit? c).map fun value => [value]
  | c :: '_' :: rest => do
    let value ← digit? c
    let values ← digits? rest
    return value :: values
  | c :: rest => do
    let value ← digit? c
    let values ← digits? rest
    return value :: values

def digitLimit : Nat := 4300

def ofDigits (values : List Nat) : Nat := values.foldl (fun total value => total * 10 + value) 0

def natural? (text : List Char) : Option Nat := do
  let values ← digits? text
  guard (values.length ≤ digitLimit)
  return ofDigits values

def integer? (text : String) : Option Int :=
  match trimBoth isMargin text.toList with
  | '-' :: rest => (natural? rest).map fun value => -(value : Int)
  | '+' :: rest => (natural? rest).map fun value => (value : Int)
  | rest => (natural? rest).map fun value => (value : Int)

end ModuleScope.Text
