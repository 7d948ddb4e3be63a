import ModuleScope.TypeScript.Grammar.Types

/-!
Markup elements of TSX: tags with attributes, text and embedded expressions.
-/
namespace ModuleScope.TypeScript.Reading

private def markupWord (kind : Kind) : Reading Unit := do
  let count := markupNameLength (← peek).before.rest
  require (0 < count)
  takeStretch kind count

private def namespaced (first : Nat) : Reading Unit := do
  take
  markupWord .identifier
  wrap first .jsxNamespaceName

private def elementName : Reading Unit := do
  let first ← mark
  markupWord .identifier
  if ← atMark ":" then namespaced first
  repeatWhile do
    if ← atMark "." then
      labelAt first .object
      take
      labelled .property (markupWord .propertyIdentifier)
      wrap first .memberExpression
      pure true
    else pure false

private def embedded (rule : Grammar) : Reading Unit :=
  node .jsxExpression do
    expectMark "\x7b"
    inBrackets do
      if ← atMark "..." then
        node .spreadElement do
          take
          rule .expression
      else if !(← atMark "\x7d") then rule .expressions
    expectMark "\x7d"

private def attributeValue (rule : Grammar) : Reading Unit := do
  if ← atMark "\x7b" then embedded rule
  else if ← atMark "<" then rule .markupElement
  else
    let rest := (← peek).before.rest
    require (rest.head? == some '\x22' || rest.head? == some '\x27')
    match markupStringLength rest with
    | some count => takeStretch .string count
    | none => fail

private def elementAttribute (rule : Grammar) : Reading Unit := do
  if ← atMark "\x7b" then embedded rule
  else
    node .jsxAttribute do
      let first ← mark
      markupWord .propertyIdentifier
      if ← atMark ":" then
        changeAt first fun tree => tree.withKind .identifier
        namespaced first
      if ← optionalMark "=" then attributeValue rule

private def elementChildren (rule : Grammar) : Reading Unit :=
  repeatWhile do
    let rest := (← get).place.rest
    let count := markupTextLength rest
    if 0 < count then
      if (rest.take count).all isBlank then skipText count else takeText .jsxText count
    if ← atMark "\x7b" then
      embedded rule
      pure true
    else if (← atMark "<") && !(← peekSecond).isMark "/" then
      rule .markupElement
      pure true
    else pure false

def markupElement (rule : Grammar) : Reading Unit := do
  require ((← get).context.dialect == .tsx)
  let first ← mark
  expectMark "<"
  if !(← atMark ">") then
    labelled .name elementName
    if ← atMark "<" then labelled .typeArguments (typeArguments rule)
  repeatWhile do
    if (← atMark ">") || (← atMark "/") then pure false
    else
      labelled .attribute (elementAttribute rule)
      pure true
  if ← optionalMark "/" then
    expectMark ">"
    wrap first .jsxSelfClosingElement
  else
    expectMark ">"
    wrap first .jsxOpeningElement
    labelAt first .openTag
    elementChildren rule
    labelled .closeTag <| node .jsxClosingElement do
      expectMark "<"
      expectMark "/"
      if !(← atMark ">") then labelled .name elementName
      expectMark ">"
    wrap first .jsxElement

end ModuleScope.TypeScript.Reading
