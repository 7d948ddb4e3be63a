import ModuleScope.Text.Printable

/-!
Quoted text for messages. Single quotes stand around it unless it holds single quotes and no double
ones; what cannot be printed is written by its code point.
-/
namespace ModuleScope.Text

def hexadecimal : Nat → Nat → List Char
  | 0, _ => []
  | width + 1, value =>
    hexadecimal width (value / 16) ++ ["0123456789abcdef".toList.getD (value % 16) '0']

def quotationMark (text : List Char) : Char :=
  if text.contains '\x27' && !text.contains '\x22' then '\x22' else '\x27'

def quotedChar (mark c : Char) : List Char :=
  if c == mark || c == '\\' then ['\\', c]
  else match c with
    | '\n' => ['\\', 'n']
    | '\t' => ['\\', 't']
    | '\r' => ['\\', 'r']
    | c =>
      if isPrintable c then [c]
      else if c.toNat ≤ 0xFF then '\\' :: 'x' :: hexadecimal 2 c.toNat
      else if c.toNat ≤ 0xFFFF then '\\' :: 'u' :: hexadecimal 4 c.toNat
      else '\\' :: 'U' :: hexadecimal 8 c.toNat

def quoted (text : String) : String :=
  let mark := quotationMark text.toList
  String.ofList (mark :: (text.toList.flatMap (quotedChar mark) ++ [mark]))

end ModuleScope.Text
