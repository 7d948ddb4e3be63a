/-!
Characters and lines. A blank is white space of Unicode or a separator control; line ends of all systems
may be written as line feeds; a word is a letter, `_` or `$` with all letters, digits, `_` and `$` that
follow it.
-/
namespace ModuleScope.Text

/-- White space of Unicode and the four separator controls. -/
def isBlank (c : Char) : Bool :=
  let n := c.toNat
  (9 ≤ n && n ≤ 13) || (0x1C ≤ n && n ≤ 0x20) || n == 0x85 || n == 0xA0 || n == 0x1680 ||
    (0x2000 ≤ n && n ≤ 0x200A) || n == 0x2028 || n == 0x2029 || n == 0x202F || n == 0x205F ||
    n == 0x3000

def trimEnd (drop : Char → Bool) (text : List Char) : List Char :=
  (text.reverse.dropWhile drop).reverse

def trimBoth (drop : Char → Bool) (text : List Char) : List Char :=
  trimEnd drop (text.dropWhile drop)

def trim (text : String) : String := String.ofList (trimBoth isBlank text.toList)

/-- Puts one line feed in place of every carriage return, also of one with a line feed after it. -/
def normalizeNewlines : List Char → List Char
  | [] => []
  | '\r' :: '\n' :: rest => '\n' :: normalizeNewlines rest
  | '\r' :: rest => '\n' :: normalizeNewlines rest
  | c :: rest => c :: normalizeNewlines rest

def dropByteOrderMark : List Char → List Char
  | '﻿' :: rest => rest
  | text => text

def isWordStart (c : Char) : Bool := c.isAlpha || c == '_' || c == '$'

def isWordPart (c : Char) : Bool := isWordStart c || ('0' ≤ c && c ≤ '9')

def isWord : List Char → Bool
  | [] => false
  | c :: rest => isWordStart c && rest.all isWordPart

/-- Starts and stops of the words of a text from left to right; `start` is that of the word being read,
and the text begins at `offset`. -/
def wordsFrom (start : Option Nat) (offset : Nat) : List Char → List (Nat × Nat)
  | [] => match start with
    | some start => [(start, offset)]
    | none => []
  | c :: rest =>
    match start with
    | some start =>
      if isWordPart c then wordsFrom (some start) (offset + 1) rest
      else (start, offset) :: wordsFrom none (offset + 1) rest
    | none =>
      if isWordStart c then wordsFrom (some offset) (offset + 1) rest
      else wordsFrom none (offset + 1) rest

def words (text : List Char) : List (Nat × Nat) := wordsFrom none 0 text

end ModuleScope.Text
