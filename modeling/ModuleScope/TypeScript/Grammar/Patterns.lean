import ModuleScope.TypeScript.Grammar.Types

/-!
Patterns that bind names, parameters and decorators, and the reading of an expression as a pattern
once an assignment shows that it is one.
-/
namespace ModuleScope.TypeScript

namespace Reading

private def patternItem (rule : Grammar) : Reading Unit := do
  let first ← mark
  rule .pattern
  if ← atMark "=" then
    labelAt first .left
    take
    labelled .right (rule .expression)
    wrap first .assignmentPattern

private def restPattern (rule : Grammar) : Reading Unit :=
  node .restPattern do
    take
    rule .pattern

private def objectPatternItem (rule : Grammar) : Reading Unit := do
  let first ← mark
  let token ← peek
  let second ← peekSecond
  if token.isMark "..." then restPattern rule
  else if token.cls == .word && !second.isMark ":" then
    takeAs .shorthandPropertyIdentifierPattern
    if ← atMark "=" then
      labelAt first .left
      take
      labelled .right (rule .expression)
      wrap first .objectAssignmentPattern
  else
    labelled .key (propertyName rule)
    expectMark ":"
    labelled .value (patternItem rule)
    wrap first .pairPattern

def pattern (rule : Grammar) : Reading Unit := do
  let token ← peek
  if token.isMark "\x7b" then
    node .objectPattern do
      take
      inBrackets (commaList "\x7d" (objectPatternItem rule))
  else if token.isMark "[" then
    node .arrayPattern do
      take
      inBrackets (commaList "]" (patternItem rule))
  else if token.isMark "..." then restPattern rule
  else if token.isWord "undefined" then takeAs .undefinedLiteral
  else identifier

def decorator (rule : Grammar) : Reading Unit :=
  node .decorator do
    expectMark "@"
    let first ← mark
    if ← atMark "(" then
      node .parenthesizedExpression do
        take
        inBrackets (rule .expressions)
        expectMark ")"
    else
      identifier
      repeatWhile do
        if ← atMark "." then
          labelAt first .object
          take
          labelled .property memberName
          wrap first .memberExpression
          pure true
        else pure false
      let called ← attempt do
        if ← atMark "<" then labelled .typeArguments (typeArguments rule)
        labelled .arguments (argumentList rule)
      if called then
        labelAt first .function
        wrap first .callExpression

def decorators (rule : Grammar) : Reading Unit :=
  repeatWhile do
    if ← atMark "@" then
      labelled .decorator (decorator rule)
      pure true
    else pure false

private def startsPattern (token : Token) : Bool :=
  token.cls == .word || token.isMark "\x7b" || token.isMark "[" || token.isMark "..."

def parameter (rule : Grammar) : Reading Unit := do
  let first ← mark
  decorators rule
  repeatWhile do
    let token ← peek
    if token.cls == .word && startsPattern (← peekSecond) &&
        ["public", "private", "protected", "override", "readonly"].contains token.text then
      takeAs (modifierKind token.text)
      pure true
    else pure false
  if ← atWord "this" then labelled .pattern (takeAs .thisExpression)
  else labelled .pattern (rule .pattern)
  let kind : Kind := if ← atMark "?" then .optionalParameter else .requiredParameter
  if kind == .optionalParameter then take
  optionalDeclaredType rule
  optionalInitializer rule
  wrap first kind

def formalParameters (rule : Grammar) : Reading Unit :=
  node .formalParameters do
    expectMark "("
    inBrackets (commaList ")" (parameter rule))

end Reading

namespace Tree

/-- An expression read as the pattern it assigns to. -/
def toPattern : Tree → Tree
  | node kind label span children =>
    match kind with
    | .object => node .objectPattern label span (mapPattern children)
    | .array => node .arrayPattern label span (mapPattern children)
    | .pair => node .pairPattern label span (mapPattern children)
    | .spreadElement => node .restPattern label span (mapPattern children)
    | .assignmentExpression => node .assignmentPattern label span children
    | .shorthandPropertyIdentifier => node .shorthandPropertyIdentifierPattern label span children
    | _ => node kind label span children
where
  mapPattern : List Tree → List Tree
    | [] => []
    | child :: rest => child.toPattern :: mapPattern rest

end Tree

end ModuleScope.TypeScript
