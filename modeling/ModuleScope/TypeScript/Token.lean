import ModuleScope.TypeScript.Tree

/-!
Tokens of TypeScript. A token is read from a place in the text together with the blanks and comments
before it. Texts that only the grammar can tell apart (regular expressions, template text, markup
text, marks that begin with `>`) have readers of their own, which start from a place as well.
-/
namespace ModuleScope.TypeScript

structure Place where
  rest : List Char
  offset : Nat
deriving Repr

namespace Place

def advance (place : Place) : Nat → Place
  | 0 => place
  | count + 1 =>
    match place.rest with
    | [] => place
    | c :: rest => advance ⟨rest, place.offset + c.utf8Size⟩ count

end Place

/-- Blanks between tokens: control blanks, the spaces of Unicode, line and paragraph separators,
zero-width space, word joiner and byte order mark. -/
def isBlank (c : Char) : Bool :=
  let n := c.toNat
  (9 ≤ n && n ≤ 13) || n == 0x20 || n == 0xA0 || n == 0x1680 || (0x2000 ≤ n && n ≤ 0x200B) ||
    n == 0x2028 || n == 0x2029 || n == 0x202F || n == 0x205F || n == 0x2060 || n == 0x3000 ||
    n == 0xFEFF

def isPunctuation (c : Char) : Bool :=
  ":;\x60\x22\x27@#.,|^&<=>+-*/\\%?!~()[]\x7b\x7d".toList.contains c

def isDigit (c : Char) : Bool := '0' ≤ c && c ≤ '9'

/-- Characters a name may continue with: everything that is no blank, no control and no mark. -/
def isNamePart (c : Char) : Bool :=
  0x20 < c.toNat && !isBlank c && !isPunctuation c

def isNameStart (c : Char) : Bool := isNamePart c && !isDigit c

/-- A comment, and whether a line break stands before it and after the token it follows. -/
structure Comment where
  span : Span
  ownLine : Bool
deriving Repr

structure Trivia where
  comments : List Comment
  newline : Bool
  after : Place
deriving Repr

private inductive TriviaMode where
  | blank
  | line (start : Nat)
  | opening (start : Nat)
  | block (start : Nat) (star : Bool)

private def readTriviaFrom (found : List Comment) (newline : Bool) (offset : Nat) :
    TriviaMode → List Char → Trivia
  | .blank, [] => ⟨found.reverse, newline, ⟨[], offset⟩⟩
  | .line start, [] => ⟨(⟨⟨start, offset⟩, newline⟩ :: found).reverse, newline, ⟨[], offset⟩⟩
  | .opening start, [] => ⟨(⟨⟨start, offset⟩, newline⟩ :: found).reverse, newline, ⟨[], offset⟩⟩
  | .block start _, [] => ⟨(⟨⟨start, offset⟩, newline⟩ :: found).reverse, newline, ⟨[], offset⟩⟩
  | .blank, c :: rest =>
    if isBlank c then
      readTriviaFrom found (newline || c == '\n') (offset + c.utf8Size) .blank rest
    else if c == '/' && rest.head? == some '/' then
      readTriviaFrom found newline (offset + 1) (.line offset) rest
    else if c == '/' && rest.head? == some '*' then
      readTriviaFrom found newline (offset + 1) (.opening offset) rest
    else ⟨found.reverse, newline, ⟨c :: rest, offset⟩⟩
  | .line start, c :: rest =>
    if c == '\n' || c == '\r' || c == '\u2028' || c == '\u2029' then
      readTriviaFrom (⟨⟨start, offset⟩, newline⟩ :: found) (newline || c == '\n')
        (offset + c.utf8Size) .blank rest
    else readTriviaFrom found newline (offset + c.utf8Size) (.line start) rest
  | .opening start, c :: rest =>
    readTriviaFrom found newline (offset + c.utf8Size) (.block start false) rest
  | .block start star, c :: rest =>
    if star && c == '/' then
      readTriviaFrom (⟨⟨start, offset + 1⟩, newline⟩ :: found) newline (offset + 1) .blank rest
    else readTriviaFrom found newline (offset + c.utf8Size) (.block start (c == '*')) rest

def readTrivia (place : Place) : Trivia :=
  readTriviaFrom [] false place.offset .blank place.rest

inductive TokenClass where
  | word
  | privateName
  | number
  | string
  | mark
  | stray
  | endOfText
deriving DecidableEq, Repr

/-- A token with the blanks and comments before it. `text` is kept for words and marks only. -/
structure Token where
  cls : TokenClass
  text : String
  before : Place
  after : Place
  newline : Bool
  comments : List Comment
deriving Repr

namespace Token

def span (token : Token) : Span := ⟨token.before.offset, token.after.offset⟩

def isMark (token : Token) (text : String) : Bool := token.cls == .mark && token.text == text

def isWord (token : Token) (text : String) : Bool := token.cls == .word && token.text == text

end Token

/-- Marks, longest first. Marks of several characters that begin with `>` are left out: inside type
arguments each `>` counts on its own. -/
def marks : List String :=
  ["...", "===", "!==", "**=", "<<=", "&&=", "||=", "??=",
   "=>", "==", "!=", "<=", "<<", "++", "--", "+=", "-=", "*=", "/=", "%=", "&=", "|=", "^=",
   "&&", "||", "??", "?.", "**",
   "\x7b", "\x7d", "(", ")", "[", "]", ";", ",", "<", ">", "=", "+", "-", "*", "/", "%", "&", "|",
   "^", "!", "~", "?", ":", ".", "@", "\x60"]

def greaterMarks : List String := [">>>=", ">>>", ">>=", ">>", ">=", ">"]

def firstMark (table : List String) (rest : List Char) : Option String :=
  table.find? fun mark => mark.toList.isPrefixOf rest

def nameLength (braced : Bool) : List Char → Nat
  | [] => 0
  | c :: rest =>
    if braced then 1 + nameLength (c != '\x7d') rest
    else if isNamePart c then 1 + nameLength false rest
    else if c == '\\' then
      match rest with
      | 'u' :: '\x7b' :: rest => 3 + nameLength true rest
      | 'u' :: rest => 2 + nameLength false rest
      | _ => 0
    else 0

def stringLength (quote : Char) (escaped : Bool) : List Char → Option Nat
  | [] => none
  | c :: rest =>
    if escaped then (stringLength quote false rest).map (· + 1)
    else if c == quote then some 1
    else if c == '\n' then none
    else (stringLength quote (c == '\\') rest).map (· + 1)

private def digitsLength (rest : List Char) : Nat :=
  (rest.takeWhile fun c => isDigit c || c == '_').length

private def exponentLength : List Char → Nat
  | c :: rest =>
    if c == 'e' || c == 'E' then
      match rest with
      | sign :: digits =>
        if (sign == '+' || sign == '-') && 0 < digitsLength digits then 2 + digitsLength digits
        else if 0 < digitsLength rest then 1 + digitsLength rest
        else 0
      | [] => 0
    else 0
  | [] => 0

/-- Number of characters of a number: decimal with fraction and exponent, or a radix form, either
with separators and a trailing `n`. -/
def numberLength (rest : List Char) : Nat :=
  let radix := match rest with
    | '0' :: r :: _ => "xXoObB".toList.contains r
    | _ => false
  if radix then (rest.takeWhile fun c => c.isAlphanum || c == '_').length
  else
    let whole := digitsLength rest
    let afterWhole := rest.drop whole
    let fraction := match afterWhole with
      | '.' :: digits => 1 + digitsLength digits
      | _ => 0
    let afterFraction := afterWhole.drop fraction
    let scale := exponentLength afterFraction
    let big := match afterFraction.drop scale with
      | 'n' :: _ => 1
      | _ => 0
    whole + fraction + scale + big

def classify (rest : List Char) : TokenClass × String × Nat :=
  match rest with
  | [] => (.endOfText, "", 0)
  | c :: tail =>
    if isNameStart c || (c == '\\' && tail.head? == some 'u') then
      let count := max 1 (nameLength false rest)
      (.word, String.ofList (rest.take count), count)
    else if isDigit c || (c == '.' && (tail.head?.map isDigit).getD false) then
      (.number, "", max 1 (numberLength rest))
    else if c == '\x22' || c == '\x27' then
      match stringLength c false tail with
      | some count => (.string, "", count + 1)
      | none => (.stray, "", 1)
    else if c == '#' then
      (.privateName, "", 1 + nameLength false tail)
    else match firstMark marks rest with
      | some "?." =>
        if ((tail.drop 1).head?.map isDigit).getD false then (.mark, "?", 1) else (.mark, "?.", 2)
      | some mark => (.mark, mark, mark.length)
      | none => (.stray, "", 1)

def readToken (place : Place) : Token :=
  let trivia := readTrivia place
  let (cls, text, count) := classify trivia.after.rest
  { cls, text, before := trivia.after, after := trivia.after.advance count,
    newline := trivia.newline, comments := trivia.comments }

def regexLength : List Char → Option Nat
  | '/' :: rest => (body false false rest).map (· + 1)
  | _ => none
where
  body (inClass escaped : Bool) : List Char → Option Nat
    | [] => none
    | c :: rest =>
      if c == '\n' then none
      else if escaped then (body inClass false rest).map (· + 1)
      else if c == '\\' then (body inClass true rest).map (· + 1)
      else if inClass then (body (c != ']') false rest).map (· + 1)
      else if c == '[' then (body true false rest).map (· + 1)
      else if c == '/' then some (1 + (rest.takeWhile fun c => c.isAlpha).length)
      else (body false false rest).map (· + 1)

/-- Number of characters of template text, and whether a substitution (rather than the closing
quote) follows it. -/
def templateLength (escaped : Bool) : List Char → Option (Nat × Bool)
  | [] => none
  | c :: rest =>
    if escaped then (templateLength false rest).map fun (count, more) => (count + 1, more)
    else if c == '\x60' then some (0, false)
    else if c == '$' && rest.head? == some '\x7b' then some (0, true)
    else (templateLength (c == '\\') rest).map fun (count, more) => (count + 1, more)

def markupTextLength (rest : List Char) : Nat :=
  (rest.takeWhile fun c => c != '<' && c != '\x7b').length

/-- Number of characters of a markup attribute string, quotes included; it has no escapes. -/
def markupStringLength : List Char → Option Nat
  | quote :: rest =>
    let inner := (rest.takeWhile (· != quote)).length
    if (rest.drop inner).isEmpty then none else some (inner + 2)
  | [] => none

/-- Number of characters of a markup name: a name in which hyphens may follow the first character. -/
def markupNameLength (rest : List Char) : Nat :=
  match rest with
  | c :: tail => if isNameStart c then 1 + (tail.takeWhile fun c => isNamePart c || c == '-').length else 0
  | [] => 0

end ModuleScope.TypeScript
