import ModuleScope.TypeScript.Grammar.Patterns

/-!
Expressions. Operators are read by level; calls, selections and the like are closed around what
stands to their left.
-/
namespace ModuleScope.TypeScript.Reading

private def augmentedMarks : List String :=
  ["+=", "-=", "*=", "/=", "%=", "**=", "<<=", ">>=", ">>>=", "&=", "|=", "^=", "&&=", "||=", "??="]

/-- The operator at the head of the text; one that begins with `>` is read whole. -/
private def operatorText (token : Token) : String :=
  if token.isMark ">" then (firstMark greaterMarks token.before.rest).getD ">" else token.text

/-- Levels of binary operators, loosest first. -/
private def operatorLevel (context : Context) (token : Token) : Option Nat :=
  match token.cls with
  | .mark =>
    match operatorText token with
    | "??" => some 1
    | "||" => some 2
    | "&&" => some 3
    | "|" => some 4
    | "^" => some 5
    | "&" => some 6
    | "==" | "!=" | "===" | "!==" => some 7
    | "<" | ">" | "<=" | ">=" => some 8
    | "<<" | ">>" | ">>>" => some 9
    | "+" | "-" => some 10
    | "*" | "/" | "%" => some 11
    | "**" => some 12
    | _ => none
  | .word =>
    match token.text with
    | "instanceof" => some 8
    | "in" => if context.allowIn then some 8 else none
    | "as" | "satisfies" => if token.newline then none else some 8
    | _ => none
  | _ => none

private def takeOperator : Reading Unit := do
  let token ← peek
  if token.cls == .mark then takeStretch .token (operatorText token).length else take

def binary (rule : Grammar) (level : Nat) : Reading Unit := do
  let first ← mark
  rule .unary
  repeatWhile do
    let token ← peek
    match operatorLevel (← get).context token with
    | none => pure false
    | some found =>
      if found < level then pure false
      else if token.isWord "as" || token.isWord "satisfies" then
        take
        rule .type
        wrap first (if token.text == "as" then .asExpression else .satisfiesExpression)
        pure true
      else
        labelAt first .left
        takeOperator
        labelled .right (rule (.binary (if found == 12 then found else found + 1)))
        wrap first .binaryExpression
        pure true

private def functionExpression (rule : Grammar) : Reading Unit := do
  let first ← mark
  let _ ← optionalWord "async"
  expectWord "function"
  let kind : Kind := if ← atMark "*" then .generatorFunction else .functionExpression
  if kind == .generatorFunction then take
  if isIdentifier (← peek) then labelled .name identifier
  signature rule
  labelled .body (rule .statementBlock)
  wrap first kind

private def arrowBody (rule : Grammar) : Reading Unit := do
  expectMark "=>"
  if ← atMark "\x7b" then labelled .body (rule .statementBlock)
  else labelled .body (rule .expression)

/-- An arrow function whose parameters are in parentheses. Where a colon has to follow, a return
type is taken for one only if the colon still follows the body. -/
private def arrowFunction (rule : Grammar) : Reading Unit := do
  let outer := (← get).context.colonFollows
  node .arrowFunction do
    let _ ← optionalWord "async"
    optionalTypeParameters rule
    labelled .parameters (rule .formalParameters)
    let annotated ← atMark ":"
    if annotated then
      let first ← mark
      signatureResult first
    arrowBody rule
    if annotated && outer then require (← atMark ":")
where
  signatureResult (first : Nat) : Reading Unit := do
    declaredResult rule
    labelAt first .returnType

/-- Tries an arrow function; a bracket that opens none is remembered. -/
private def attemptArrow (rule : Grammar) : Reading Bool := do
  let start := (← peek).before.offset
  if (← get).refused.contains start then pure false
  else if ← attempt (arrowFunction rule) then pure true
  else
    modify fun state => { state with refused := start :: state.refused }
    pure false

private def arrowOfName (rule : Grammar) : Reading Unit :=
  node .arrowFunction do
    if (← atWord "async") && !(← peekSecond).isMark "=>" then take
    labelled .parameter (anyWord .identifier)
    arrowBody rule

private def objectMember (rule : Grammar) : Reading Unit := do
  let first ← mark
  let token ← peek
  let second ← peekSecond
  if token.isMark "..." then
    node .spreadElement do
      take
      rule .expression
  else if token.cls == .word && (second.isMark "," || second.isMark "\x7d") then
    takeAs .shorthandPropertyIdentifier
  else if token.cls == .word && second.isMark "=" then
    takeAs .shorthandPropertyIdentifierPattern
    labelAt first .left
    take
    labelled .right (rule .expression)
    wrap first .objectAssignmentPattern
  else
    repeatWhile do
      if ← modifierFollows then
        takeAs (modifierKind (← peek).text)
        pure true
      else pure false
    let _ ← optionalMark "*"
    let name ← mark
    propertyName rule
    let _ ← optionalMark "?"
    if (← atMark "(") || (← atMark "<") then
      labelAt name .name
      signature rule
      labelled .body (rule .statementBlock)
      wrap first .methodDefinition
    else
      labelAt name .key
      expectMark ":"
      labelled .value (rule .expression)
      wrap first .pair

private def objectLiteral (rule : Grammar) : Reading Unit :=
  node .object do
    take
    inBrackets (commaList "\x7d" (objectMember rule))

private def arrayLiteral (rule : Grammar) : Reading Unit :=
  node .array do
    take
    inBrackets <| commaList "]" do
      if ← atMark "..." then
        node .spreadElement do
          take
          rule .expression
      else rule .expression

private def parenthesized (rule : Grammar) : Reading Unit :=
  node .parenthesizedExpression do
    take
    inBrackets do
      rule .expressions
      optionalDeclaredType rule
    expectMark ")"

private def regex : Reading Unit := do
  match regexLength (← peek).before.rest with
  | some count => takeStretch .regex count
  | none => fail

private def superclass (rule : Grammar) : Reading Unit := do
  labelled .value (rule .unary)
  if ← atMark "<" then labelled .typeArguments (typeArguments rule)

private def classHeritage (rule : Grammar) : Reading Unit := do
  let first ← mark
  if ← atWord "extends" then
    node .extendsClause do
      take
      superclass rule
      repeatWhile do
        if ← optionalMark "," then
          superclass rule
          pure true
        else pure false
  if ← atWord "implements" then
    node .implementsClause do
      take
      rule .type
      repeatWhile do
        if ← optionalMark "," then
          rule .type
          pure true
        else pure false
  if first < (← mark) then wrap first .classHeritage

def classRest (rule : Grammar) : Reading Unit := do
  let token ← peek
  if token.cls == .word && token.text != "extends" && token.text != "implements" then
    labelled .name (takeAs .typeIdentifier)
  optionalTypeParameters rule
  classHeritage rule
  labelled .body (rule .classBody)

private def metaProperty : Reading Unit :=
  node .metaProperty do
    take
    take
    take

/-- Whether type arguments that no call follows can end here. -/
private def endsInstantiation (token : Token) : Bool :=
  match token.cls with
  | .endOfText => true
  | .mark => [")", "]", ":", ";", ",", ".", "?.", "==", "===", "!=", "!==", "&&", "||", "??", "\x7d", "=", "&", "|", "^"].contains token.text
  | .word => token.newline
  | _ => token.newline

private def templateFollows : Reading Bool := atMark "\x60"

/-- Closes selections, and calls where they are allowed, around the node with the given number. -/
private def continueOperand (rule : Grammar) (first : Nat) (calls : Bool) : Reading Unit := do
  repeatWhile do
    let token ← peek
    if token.cls != .mark then pure false
    else match token.text with
    | "." =>
      labelAt first .object
      take
      labelled .property memberName
      wrap first .memberExpression
      pure true
    | "?." =>
      if !calls then pure false
      else
        let second ← peekSecond
        if second.isMark "(" || second.isMark "<" then
          labelAt first .function
          take
          if ← atMark "<" then labelled .typeArguments (typeArguments rule)
          labelled .arguments (argumentList rule)
          wrap first .callExpression
        else if second.isMark "[" then
          labelAt first .object
          takeAs .optionalChain
          take
          labelled .index (inBrackets (rule .expressions))
          expectMark "]"
          wrap first .subscriptExpression
        else
          labelAt first .object
          takeAs .optionalChain
          labelled .property memberName
          wrap first .memberExpression
        pure true
    | "[" =>
      labelAt first .object
      take
      labelled .index (inBrackets (rule .expressions))
      expectMark "]"
      wrap first .subscriptExpression
      pure true
    | "!" =>
      if token.newline then pure false
      else
        take
        wrap first .nonNullExpression
        pure true
    | "(" =>
      if !calls then pure false
      else
        labelAt first .function
        labelled .arguments (argumentList rule)
        wrap first .callExpression
        pure true
    | "\x60" =>
      labelAt first .function
      labelled .arguments (template .templateString .templateSubstitution (rule .expressions))
      wrap first .callExpression
      pure true
    | "<" =>
      if !calls then pure false
      else
        let called ← attempt do
          labelAt first .function
          labelled .typeArguments (typeArguments rule)
          if ← templateFollows then
            labelled .arguments (template .templateString .templateSubstitution (rule .expressions))
          else labelled .arguments (argumentList rule)
        if called then
          wrap first .callExpression
          pure true
        else
          let instantiated ← attempt do
            labelAt first .function
            labelled .typeArguments (typeArguments rule)
            require (endsInstantiation (← peek))
          if instantiated then wrap first .instantiationExpression
          pure instantiated
    | _ => pure false

private def primary (rule : Grammar) : Reading Unit := do
  let token ← peek
  match token.cls with
  | .string => takeAs .string
  | .number => takeAs .number
  | .privateName => takeAs .privatePropertyIdentifier
  | .mark =>
    match token.text with
    | "(" => parenthesized rule
    | "[" => arrayLiteral rule
    | "\x7b" => objectLiteral rule
    | "\x60" => template .templateString .templateSubstitution (rule .expressions)
    | "/" | "/=" => regex
    | "<" => rule .markupElement
    | "@" =>
      node .classExpression do
        decorators rule
        expectWord "class"
        classRest rule
    | _ => fail
  | .word =>
    match token.text with
    | "this" => takeAs .thisExpression
    | "super" => takeAs .superExpression
    | "null" => takeAs .nullLiteral
    | "true" => takeAs .trueLiteral
    | "false" => takeAs .falseLiteral
    | "undefined" => takeAs .undefinedLiteral
    | "function" => functionExpression rule
    | "new" => rule .newExpression
    | "class" =>
      node .classExpression do
        take
        classRest rule
    | "import" =>
      if (← peekSecond).isMark "." then metaProperty else takeAs .importKeyword
    | "async" =>
      let second ← peekSecond
      if second.isWord "function" && !second.newline then functionExpression rule else identifier
    | _ => identifier
  | _ => fail

def newExpression (rule : Grammar) : Reading Unit := do
  let first ← mark
  if (← peekSecond).isMark "." then metaProperty
  else
    expectWord "new"
    let made ← mark
    primary rule
    continueOperand rule made false
    labelAt made .constructor
    if ← atMark "<" then
      let _ ← attempt (labelled .typeArguments (typeArguments rule))
    if ← atMark "(" then labelled .arguments (argumentList rule)
    wrap first .newExpression

private def operand (rule : Grammar) : Reading Unit := do
  let first ← mark
  primary rule
  continueOperand rule first true

def unary (rule : Grammar) : Reading Unit := do
  let token ← peek
  let first ← mark
  if token.isWord "typeof" || token.isWord "void" || token.isWord "delete" ||
      token.isMark "!" || token.isMark "~" || token.isMark "+" || token.isMark "-" then
    take
    labelled .argument (rule .unary)
    wrap first .unaryExpression
  else if token.isMark "++" || token.isMark "--" then
    take
    labelled .argument (rule .unary)
    wrap first .updateExpression
  else if token.isWord "await" then
    take
    rule .unary
    wrap first .awaitExpression
  else if token.isMark "<" && (← get).context.dialect == .typescript then
    typeArguments rule
    rule .unary
    wrap first .typeAssertion
  else
    operand rule
    let token ← peek
    if (token.isMark "++" || token.isMark "--") && !token.newline then
      labelAt first .argument
      take
      wrap first .updateExpression

private def yieldExpression (rule : Grammar) : Reading Unit :=
  node .yieldExpression do
    take
    if ← optionalMark "*" then rule .expression
    else if !(← peek).newline then
      let _ ← attempt (rule .expression)

private def namedArrowFollows : Reading Bool := do
  let token ← peek
  if token.cls != .word then return false
  let second ← peekSecond
  if second.isMark "=>" then return true
  if token.isWord "async" && second.cls == .word && !second.newline && second.text != "function" then
    return (readToken second.after).isMark "=>"
  return false

/-- Whether `<` may open type parameters: in TSX they must be told apart from an element. -/
private def genericArrowFollows : Reading Bool := do
  if !(← atMark "<") then return false
  if (← get).context.dialect == .typescript then return true
  ahead do
    take
    anyWord .typeIdentifier
    require ((← atMark ",") || (← atWord "extends"))

def expression (rule : Grammar) : Reading Unit := do
  let token ← peek
  let second ← peekSecond
  let generic ← genericArrowFollows
  let bracket := token.isMark "(" || generic ||
    (token.isWord "async" && !second.newline && (second.isMark "(" || second.isMark "<"))
  if token.isWord "yield" then yieldExpression rule
  else if ← namedArrowFollows then arrowOfName rule
  else if bracket && (← attemptArrow rule) then pure ()
  else
    let first ← mark
    if token.isWord "using" && second.cls == .word && !second.newline &&
        (readToken second.after).isMark "=" then take
    rule (.binary 1)
    let token ← peek
    if token.isMark "?" then
      labelAt first .condition
      take
      labelled .consequence <|
        inContext (fun context => { context with allowIn := true, colonFollows := true })
          (rule .expression)
      expectMark ":"
      labelled .alternative (rule .expression)
      wrap first .ternaryExpression
    else if token.isMark "=" then
      changeAt ((← mark) - 1) Tree.toPattern
      labelAt ((← mark) - 1) .left
      take
      labelled .right (rule .expression)
      wrap first .assignmentExpression
    else if token.cls == .mark && augmentedMarks.contains (operatorText token) then
      labelAt first .left
      takeOperator
      labelled .right (rule .expression)
      wrap first .augmentedAssignmentExpression

def expressions (rule : Grammar) : Reading Unit := do
  let first ← mark
  rule .expression
  if ← atMark "," then
    repeatWhile do
      if ← optionalMark "," then
        rule .expression
        pure true
      else pure false
    wrap first .sequenceExpression

end ModuleScope.TypeScript.Reading
