import ModuleScope.TypeScript.Reading

/-!
The rules of the grammar that refer to each other, and the names all of them use. A rule is written
against a `Grammar`, which reads the parts; the grammar itself is closed in `Parse`.
-/
namespace ModuleScope.TypeScript

inductive Rule where
  | statement
  | statementBlock
  | expression
  | expressions
  | binary (level : Nat)
  | unary
  | newExpression
  | pattern
  | type
  | typeOperand
  | objectType
  | formalParameters
  | classBody
  | markupElement

abbrev Grammar := Rule → Reading Unit

namespace Reading

def reservedWords : List String :=
  ["break", "case", "catch", "class", "const", "continue", "debugger", "default", "delete", "do",
   "else", "enum", "extends", "false", "finally", "for", "function", "if", "import", "in",
   "instanceof", "new", "null", "return", "super", "switch", "this", "throw", "true", "try",
   "typeof", "var", "void", "while", "with", "yield", "await", "undefined"]

def isReserved (text : String) : Bool := reservedWords.contains text

def isIdentifier (token : Token) : Bool := token.cls == .word && !isReserved token.text

def identifier : Reading Unit := do
  require (isIdentifier (← peek))
  takeAs .identifier

def anyWord (kind : Kind) : Reading Unit := do
  require ((← peek).cls == .word)
  takeAs kind

def memberName : Reading Unit := do
  match (← peek).cls with
  | .word => takeAs .propertyIdentifier
  | .privateName => takeAs .privatePropertyIdentifier
  | _ => fail

def stringLiteral : Reading Unit := do
  require ((← peek).cls == .string)
  takeAs .string

def startsPropertyName (token : Token) : Bool :=
  match token.cls with
  | .word | .privateName | .string | .number => true
  | .mark => token.text == "["
  | _ => false

def propertyName (rule : Grammar) : Reading Unit := do
  match (← peek).cls with
  | .word => takeAs .propertyIdentifier
  | .privateName => takeAs .privatePropertyIdentifier
  | .string => takeAs .string
  | .number => takeAs .number
  | .mark =>
    node .computedPropertyName do
      expectMark "["
      inBrackets (rule .expression)
      expectMark "]"
  | _ => fail

def dottedName : Reading Unit := do
  let first ← mark
  identifier
  repeatWhile do
    if ← atMark "." then
      if 0 < (← peekSecond).text.length then
        changeAt first fun tree =>
          if tree.kind == .nestedIdentifier then tree.withKind .memberExpression else tree
        labelAt first .object
        take
        labelled .property (anyWord .propertyIdentifier)
        wrap first .nestedIdentifier
        pure true
      else pure false
    else pure false

def argumentList (rule : Grammar) : Reading Unit :=
  node .arguments do
    expectMark "("
    inBrackets <| commaList ")" do
      if ← atMark "..." then
        node .spreadElement do
          take
          rule .expression
      else rule .expression

/-- Text in back quotes whose substitutions are read by `inside`. -/
def template (whole part : Kind) (inside : Reading Unit) : Reading Unit :=
  node whole do
    expectMark "\x60"
    repeatWhile do
      match templateLength false (← get).place.rest with
      | none => fail
      | some (count, true) =>
        skipText count
        node part do
          takeText .token 2
          inBrackets inside
          expectMark "\x7d"
        pure true
      | some (count, false) =>
        skipText count
        takeText .token 1
        pure false

def initializer (rule : Grammar) : Reading Unit := do
  expectMark "="
  labelled .value (rule .expression)

def optionalInitializer (rule : Grammar) : Reading Unit := do
  if ← atMark "=" then initializer rule

end Reading

end ModuleScope.TypeScript
