import ModuleScope.Text.Integer
import ModuleScope.Text.Quoted

/-!
Literals in the parameters of a handler: numbers, quoted texts, constants, and tuples, sets and tables
of them. A handler has a name, and its parameters stand in parentheses after it; without a name they
may be any literal.
-/
namespace ModuleScope.Text.Literal

inductive Token where
  | number (imaginary : Bool)
  | quotation (bytes : Bool)
  | constant
  | word (text : String)
  | sign
  | mark (c : Char)
  | newline
deriving DecidableEq, Repr

def Token.isQuotation : Token → Bool
  | quotation _ => true
  | _ => false

def isNamePart (c : Char) : Bool := c.isAlphanum || c == '_' || 0x7F < c.toNat

def isDigitRun (isDigit : Char → Bool) : List Char → Bool
  | [] => false
  | [c] => isDigit c
  | c :: '_' :: rest => isDigit c && isDigitRun isDigit rest
  | c :: rest => isDigit c && isDigitRun isDigit rest

def isHexadecimal (c : Char) : Bool :=
  c.isDigit || ('a' ≤ c && c ≤ 'f') || ('A' ≤ c && c ≤ 'F')

/-- The characters of a number; a sign belongs to it right after the mark of an exponent. -/
def numberRun (exponent : Bool) : List Char → List Char
  | [] => []
  | c :: rest =>
    if isNamePart c || c == '.' then c :: numberRun (c == 'e' || c == 'E') rest
    else if exponent && (c == '+' || c == '-') then c :: numberRun false rest
    else []

def imaginary? (run : List Char) : Option Bool :=
  let based (isDigit : Char → Bool) (digits : List Char) : Option Bool :=
    let digits := match digits with
      | '_' :: rest => rest
      | digits => digits
    if isDigitRun isDigit digits then some false else none
  match run.map Char.toLower with
  | '0' :: 'x' :: digits => based isHexadecimal digits
  | '0' :: 'o' :: digits => based (fun c => '0' ≤ c && c ≤ '7') digits
  | '0' :: 'b' :: digits => based (fun c => c == '0' || c == '1') digits
  | lower =>
    let imaginary := lower.getLast? == some 'j'
    let amount := if imaginary then lower.dropLast else lower
    let mantissa := amount.takeWhile (· != 'e')
    let whole := mantissa.takeWhile (· != '.')
    let part := (mantissa.dropWhile (· != '.')).drop 1
    let exponent := match (amount.dropWhile (· != 'e')).drop 1 with
      | '+' :: digits => digits
      | '-' :: digits => digits
      | digits => digits
    let digits (run : List Char) : Bool := isDigitRun Char.isDigit run
    let pointed := mantissa.contains '.'
    let scaled := amount.contains 'e'
    let leading := imaginary || pointed || scaled || whole.head? != some '0' ||
      whole.all fun c => c == '0' || c == '_'
    let amounts := (digits whole || (whole.isEmpty && pointed)) && (digits part || part.isEmpty) &&
      !(whole.isEmpty && part.isEmpty) && (digits exponent || !scaled)
    let bounded := pointed || scaled || imaginary || (natural? whole).isSome
    if leading && amounts && bounded then some imaginary else none

/-- The text up to closing marks; without three of them it stays on its line. -/
def upToMarks (marks : List Char) : List Char → Option (List Char)
  | [] => none
  | [c] => if marks == [c] then some [] else none
  | c :: next :: rest =>
    if marks.isPrefixOf (c :: next :: rest) then some []
    else if c == '\\' then (upToMarks marks rest).map fun body => c :: next :: body
    else if c == '\n' && marks.length == 1 then none
    else (upToMarks marks (next :: rest)).map fun body => c :: body

/-- Whether every escape of a text is complete, and bytes are written without other characters. -/
def isQuotable (bytes raw : Bool) : List Char → Bool
  | [] => true
  | [c] => !bytes || c.toNat < 0x80
  | c :: next :: rest =>
    let coded (width : Nat) : Bool :=
      let digits := rest.take width
      digits.length == width && digits.all isHexadecimal &&
        (width != 8 || digits.take 2 == ['0', '0'] &&
          ((digits.drop 2).head? == some '0' || (digits.drop 2).take 2 == ['1', '0']))
    let complete := match next with
      | 'x' => coded 2
      | 'u' => bytes || coded 4
      | 'U' => bytes || coded 8
      | 'N' => bytes || rest.head? == some '\x7b' && rest.contains '\x7d'
      | _ => true
    let plain := !bytes || c.toNat < 0x80
    if c == '\\' && !raw then complete && isQuotable bytes raw rest
    else plain && isQuotable bytes raw (next :: rest)

def quotation? (word text : List Char) : Option (Token × Nat) := do
  let letters := word.map Char.toLower
  guard ([[], ['r'], ['b'], ['u'], ['b', 'r'], ['r', 'b']].contains letters)
  let mark ← text.head?
  guard (mark == '\x27' || mark == '\x22')
  let triple := List.replicate 3 mark
  let marks := if triple.isPrefixOf text then triple else [mark]
  let body ← upToMarks marks (text.drop marks.length)
  let bytes := letters.contains 'b'
  guard (isQuotable bytes (letters.contains 'r') body)
  return (.quotation bytes, word.length + body.length + 2 * marks.length)

def token? (text : List Char) : Option (Option Token × Nat) :=
  match text with
  | [] => none
  | '.' :: '.' :: '.' :: _ => some (some .constant, 3)
  | c :: rest =>
    if [' ', '\t', '\x0c'].contains c then some (none, 1)
    else if c == '\n' || c == '\r' then some (some .newline, 1)
    else if c == '#' then some (none, 1 + (rest.takeWhile (· != '\n')).length)
    else if c == '+' || c == '-' then some (some .sign, 1)
    else if ['(', ')', '\x7b', '\x7d', ',', ':'].contains c then some (some (.mark c), 1)
    else if c == '\x27' || c == '\x22' then
      (quotation? [] text).map fun (token, length) => (some token, length)
    else if c.isDigit || (c == '.' && rest.head?.any Char.isDigit) then
      let run := numberRun false text
      (imaginary? run).map fun imaginary => (some (.number imaginary), run.length)
    else if isNamePart c then
      let word := text.takeWhile isNamePart
      match quotation? word (text.drop word.length) with
      | some (token, length) => some (some token, length)
      | none =>
        let name := String.ofList word
        some (some (if ["True", "False", "None"].contains name then .constant else .word name),
          word.length)
    else none

/-- The tokens of a text, of which `skip` characters belong to the token before. -/
def tokensFrom (skip : Nat) : List Char → Option (List Token)
  | [] => some []
  | c :: rest =>
    match skip with
    | skip + 1 => tokensFrom skip rest
    | 0 => do
      let (token, length) ← token? (c :: rest)
      let others ← tokensFrom (length - 1) rest
      return token.toList ++ others

def openMarks (opened : List Char) : List Token → List Char
  | [] => opened
  | .mark '(' :: rest => openMarks ('(' :: opened) rest
  | .mark '\x7b' :: rest => openMarks ('\x7b' :: opened) rest
  | .mark ')' :: rest => openMarks (opened.drop 1) rest
  | .mark '\x7d' :: rest => openMarks (opened.drop 1) rest
  | _ :: rest => openMarks opened rest

def joinLines (depth : Nat) : List Token → List Token
  | [] => []
  | .newline :: rest => if depth == 0 then .newline :: joinLines depth rest else joinLines depth rest
  | .mark c :: rest =>
    let depth := if c == '(' || c == '\x7b' then depth + 1
      else if c == ')' || c == '\x7d' then depth - 1 else depth
    .mark c :: joinLines depth rest
  | token :: rest => token :: joinLines depth rest

inductive Shape where
  | real
  | signed
  | imaginary
  | constant
  | mutable
deriving DecidableEq, Repr

abbrev Reader := StateT (List Token) Option

def next? : Reader (Option Token) := do return (← get).head?

def accept (token : Token) : Reader Bool := do
  if (← next?) == some token then
    modify (·.drop 1)
    return true
  return false

def items {α : Type} (item : Reader α) (ended : Reader Bool) : Nat → Reader (List α × Bool)
  | 0 => failure
  | fuel + 1 => do
    let first ← item
    if !(← accept (.mark ',')) then return ([first], false)
    if ← ended then return ([first], true)
    let (rest, trailing) ← items item ended fuel
    return (first :: rest, trailing)

/-- What items make: one without a comma is itself, and others are a tuple. -/
def tuple : List Shape × Bool → Shape
  | ([shape], false) => shape
  | (shapes, _) => if shapes.contains .mutable then .mutable else .constant

/-- The quoted texts that follow one another, all of bytes or none. -/
def quotations (bytes : Bool) : Reader Shape := do
  let others := (← get).takeWhile Token.isQuotation
  guard (others.all (· == .quotation bytes))
  modify (·.drop others.length)
  return .constant

def entry (value : Reader Shape) : Reader (Shape × Bool) := do
  let first ← value
  if ← accept (.mark ':') then
    let _ ← value
    return (first, true)
  return (first, false)

def atom (value : Reader Shape) (fuel : Nat) : Reader Shape := do
  let token ← next?
  modify (·.drop 1)
  match token with
  | some (.number imaginary) => return if imaginary then .imaginary else .real
  | some (.quotation bytes) => quotations bytes
  | some .constant => return .constant
  | some (.word "set") =>
    guard (← accept (.mark '('))
    guard (← accept (.mark ')'))
    return .mutable
  | some (.mark '(') =>
    if ← accept (.mark ')') then return .constant
    let found ← items value (return (← next?) == some (.mark ')')) fuel
    guard (← accept (.mark ')'))
    return tuple found
  | some (.mark '\x7b') =>
    if ← accept (.mark '\x7d') then return .mutable
    let (entries, _) ← items (entry value) (return (← next?) == some (.mark '\x7d')) fuel
    guard (← accept (.mark '\x7d'))
    guard (entries.all fun entry => entry.1 != .mutable)
    guard (entries.all (·.2) || entries.all (!·.2))
    return .mutable
  | _ => failure

/-- A literal: a number may have a sign, and a real one an imaginary part. -/
def value : Nat → Reader Shape
  | 0 => failure
  | fuel + 1 => do
    let signed ← accept .sign
    let amount ← atom (value fuel) fuel
    guard (!signed || amount == .real || amount == .imaginary)
    let first := if !signed then amount else if amount == .real then .signed else .constant
    if !(← accept .sign) then return first
    guard (first == .real || first == .signed)
    guard ((← atom (value fuel) fuel) == .imaginary)
    return .constant

/-- Whether tokens are those of one literal; each level of it takes up a token. -/
def isLiteral (tokens : List Token) : Bool :=
  let ended : Reader Bool := do return (← get).all (· == .newline)
  let fuel := tokens.length + 1
  let reader : Reader Bool := do
    let _ ← items (value fuel) ended fuel
    ended
  (reader.run' tokens).getD false

def flaw? (text : List Char) : Option String :=
  match tokensFrom 0 text with
  | none => some "invalid syntax"
  | some tokens =>
    let tokens := (joinLines 0 tokens).dropWhile (· == .newline)
    if isLiteral tokens then none
    else match openMarks [] tokens with
      | mark :: _ => some s!"'{mark}' was never closed"
      | [] => some "malformed node or string"

def complaint? (parameters : String) : Option String :=
  let text := trimBoth isBlank parameters.toList
  let arguments := text.dropWhile fun c => isNamePart c || c == '.'
  let called := arguments.head? == some '(' && arguments.getLast? == some ')' &&
    !arguments.contains '\n'
  let literal := if arguments.isEmpty then ['(', ')'] else if called then arguments else text
  (flaw? literal).map fun flaw =>
    s!"error parsing {quoted (String.ofList literal)} in {quoted parameters}; {flaw}"

end ModuleScope.Text.Literal
