import ModuleScope.TypeScript.Grammar.Patterns

/-!
Bodies of classes. Decorators of a field are inside the field; those of any other member stand
before it in the body.
-/
namespace ModuleScope.TypeScript.Reading

/-- Takes at most so many modifiers and tells whether `abstract` was among them. -/
private def takeModifiers (found : Bool) : Nat → Reading Bool
  | 0 => pure found
  | count + 1 => do
    if ← modifierFollows then
      let text := (← peek).text
      takeAs (modifierKind text)
      takeModifiers (found || text == "abstract") count
    else pure found

private def classMember (rule : Grammar) : Reading Unit := do
  let first ← mark
  decorators rule
  let own ← mark
  if (← atWord "static") && (← peekSecond).isMark "\x7b" then
    take
    labelled .body (rule .statementBlock)
    wrap own .classStaticBlock
  else if ← indexSignatureFollows then indexSignature rule
  else
    let isAbstract ← takeModifiers false memberModifiers.length
    let _ ← optionalMark "*"
    labelled .name (propertyName rule)
    if (← atMark "?") || (← atMark "!") then take
    if (← atMark "(") || (← atMark "<") then
      signature rule
      if isAbstract then wrap own .abstractMethodSignature
      else if ← atMark "\x7b" then
        labelled .body (rule .statementBlock)
        wrap own .methodDefinition
      else wrap own .methodSignature
    else
      optionalDeclaredType rule
      optionalInitializer rule
      wrap first .publicFieldDefinition

def classBody (rule : Grammar) : Reading Unit :=
  node .classBody do
    expectMark "\x7b"
    inBrackets <| repeatWhile do
      if ← atMark "\x7d" then pure false
      else if (← optionalMark ";") || (← optionalMark ",") then pure true
      else
        classMember rule
        pure true
    expectMark "\x7d"

end ModuleScope.TypeScript.Reading
