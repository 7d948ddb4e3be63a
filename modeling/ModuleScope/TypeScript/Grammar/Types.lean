import ModuleScope.TypeScript.Grammar.Rule

/-!
Types, type parameters and the annotations that hold them.
-/
namespace ModuleScope.TypeScript.Reading

def predefinedTypes : List String :=
  ["any", "number", "boolean", "string", "symbol", "void", "unknown", "never", "object"]

def typeArguments (rule : Grammar) : Reading Unit :=
  node .typeArguments do
    expectMark "<"
    inBrackets (commaList ">" (rule .type))

private def typeParameter (rule : Grammar) : Reading Unit :=
  node .typeParameter do
    if ← atWord "const" then take
    labelled .name (anyWord .typeIdentifier)
    if ← atWord "extends" then
      labelled .constraint <| node .constraint do
        take
        rule .type
    if ← atMark "=" then
      labelled .value <| node .defaultType do
        take
        rule .type

def typeParameters (rule : Grammar) : Reading Unit :=
  node .typeParameters do
    expectMark "<"
    inBrackets (commaList ">" (typeParameter rule))

def optionalTypeParameters (rule : Grammar) : Reading Unit := do
  if ← atMark "<" then labelled .typeParameters (typeParameters rule)

def declaredType (rule : Grammar) : Reading Unit :=
  node .declaredType do
    expectMark ":"
    rule .type

def optionalDeclaredType (rule : Grammar) : Reading Unit := do
  if ← atMark ":" then labelled .type (declaredType rule)

private def predicateFollows : Reading Bool := do
  let second ← peekSecond
  return (← peek).cls == .word && second.isWord "is" && !second.newline

private def assertsFollows : Reading Bool := do
  let second ← peekSecond
  return (← atWord "asserts") && second.cls == .word && !second.newline && second.text != "is"

private def predicateName : Reading Unit := do
  if ← atWord "this" then takeAs .thisExpression else anyWord .identifier

private def typePredicate (rule : Grammar) : Reading Unit :=
  node .typePredicate do
    labelled .name predicateName
    expectWord "is"
    labelled .type (rule .type)

private def asserts (rule : Grammar) : Reading Unit :=
  node .asserts do
    expectWord "asserts"
    if ← predicateFollows then typePredicate rule else predicateName

/-- The type of what a function returns, which may be a statement about a parameter. -/
private def resultType (rule : Grammar) : Reading Unit := do
  if ← assertsFollows then asserts rule
  else if ← predicateFollows then typePredicate rule
  else rule .type

def declaredResult (rule : Grammar) : Reading Unit := do
  let first ← mark
  expectMark ":"
  if ← assertsFollows then
    asserts rule
    wrap first .declaredAssertion
  else if ← predicateFollows then
    typePredicate rule
    wrap first .declaredPredicate
  else
    rule .type
    wrap first .declaredType

def signature (rule : Grammar) : Reading Unit := do
  optionalTypeParameters rule
  labelled .parameters (rule .formalParameters)
  if ← atMark ":" then labelled .returnType (declaredResult rule)

private def functionType (rule : Grammar) : Reading Unit :=
  node .functionType do
    optionalTypeParameters rule
    labelled .parameters (rule .formalParameters)
    expectMark "=>"
    labelled .returnType (resultType rule)

private def constructorType (rule : Grammar) : Reading Unit :=
  node .constructorType do
    let _ ← optionalWord "abstract"
    expectWord "new"
    optionalTypeParameters rule
    labelled .parameters (rule .formalParameters)
    expectMark "=>"
    labelled .type (rule .type)

def namedType (rule : Grammar) : Reading Unit := do
  let first ← mark
  require (isIdentifier (← peek))
  takeAs .typeIdentifier
  repeatWhile do
    if (← atMark ".") && (← peekSecond).cls == .word then
      changeAt first fun tree =>
        match tree.kind with
        | .typeIdentifier => tree.withKind .identifier
        | .nestedIdentifier => tree.withKind .memberExpression
        | _ => tree
      take
      if (← peekSecond).isMark "." then
        labelAt first .object
        labelled .property (anyWord .propertyIdentifier)
        wrap first .nestedIdentifier
        pure true
      else
        changeAt first fun tree =>
          if tree.kind == .memberExpression then tree.withKind .nestedIdentifier else tree
        labelAt first .moduleName
        labelled .name (anyWord .typeIdentifier)
        wrap first .nestedTypeIdentifier
        pure false
    else pure false
  if ← atMark "<" then
    if ← attempt (labelled .typeArguments (typeArguments rule)) then
      labelAt first .name
      wrap first .genericType

private def importType (rule : Grammar) : Reading Unit := do
  let first ← mark
  takeAs .importKeyword
  labelAt first .function
  labelled .arguments (argumentList rule)
  wrap first .callExpression
  repeatWhile do
    if ← atMark "." then
      labelAt first .object
      take
      labelled .property memberName
      wrap first .memberExpression
      pure true
    else pure false
  if ← atMark "<" then
    if ← attempt (labelled .typeArguments (typeArguments rule)) then
      wrap first .genericType

private def queriedValue (rule : Grammar) : Reading Unit := do
  let first ← mark
  if ← atWord "import" then
    takeAs .importKeyword
    labelAt first .function
    labelled .arguments (argumentList rule)
    wrap first .callExpression
  else if ← atWord "this" then takeAs .thisExpression
  else anyWord .identifier
  repeatWhile do
    if (← atMark ".") || (← atMark "?.") then
      labelAt first .object
      take
      labelled .property memberName
      wrap first .memberExpression
      pure true
    else pure false
  if (← atMark "<") && !(← peek).newline then
    if ← attempt (labelled .typeArguments (typeArguments rule)) then
      labelAt first .function
      wrap first .instantiationExpression

private def tupleMember (rule : Grammar) : Reading Unit := do
  let first ← mark
  let second ← peekSecond
  if ← atMark "..." then
    if ← ahead (do take; anyWord .identifier; expectMark ":") then
      labelled .name <| node .restPattern do
        take
        anyWord .identifier
      labelled .type (declaredType rule)
      wrap first .requiredParameter
    else
      take
      rule .type
      wrap first .restType
  else if (← peek).cls == .word && second.isMark ":" then
    labelled .name (anyWord .identifier)
    labelled .type (declaredType rule)
    wrap first .requiredParameter
  else if ← ahead (do anyWord .identifier; expectMark "?"; expectMark ":") then
    labelled .name (anyWord .identifier)
    expectMark "?"
    labelled .type (declaredType rule)
    wrap first .optionalParameter
  else
    rule .type
    if ← optionalMark "?" then wrap first .optionalType

/-- Whether the bracket that follows opens an index signature rather than a computed name. -/
private def indexFollows : Reading Bool :=
  ahead do
    expectMark "["
    anyWord .identifier
    require ((← atMark ":") || (← atWord "in"))

/-- An index signature, or the clause of a mapped type. -/
def indexSignature (rule : Grammar) : Reading Unit :=
  node .indexSignature do
    if (← atMark "-") || (← atMark "+") then take
    let _ ← optionalWord "readonly"
    expectMark "["
    if (← peekSecond).isWord "in" then
      node .mappedTypeClause do
        labelled .name (anyWord .typeIdentifier)
        take
        labelled .type (rule .type)
        if ← optionalWord "as" then labelled .otherName (rule .type)
    else
      labelled .name (anyWord .identifier)
      expectMark ":"
      labelled .indexType (rule .type)
    expectMark "]"
    if ← atMark ":" then labelled .type (declaredType rule)
    else if (← atMark "?") || (← atMark "-") || (← atMark "+") then
      let first ← mark
      let token ← peek
      let kind : Kind :=
        if token.isMark "-" then .omittingType
        else if token.isMark "+" then .addingType
        else .optingType
      if kind != .optingType then take
      expectMark "?"
      expectMark ":"
      rule .type
      wrap first kind
      labelAt first .type

def indexSignatureFollows : Reading Bool := do
  if ← indexFollows then return true
  if ← atWord "readonly" then return ← ahead (do take; require (← indexFollows))
  if (← atMark "-") || (← atMark "+") then
    return ← ahead (do take; expectWord "readonly"; require (← indexFollows))
  return false

def memberModifiers : List String :=
  ["public", "private", "protected", "static", "override", "readonly", "async", "get", "set",
   "abstract", "declare", "accessor"]

def modifierKind (text : String) : Kind :=
  if text == "public" || text == "private" || text == "protected" then .accessibilityModifier
  else if text == "override" then .overrideModifier
  else .token

/-- Whether the word that follows is a modifier of the member rather than its name. A line break
after a word that could be a name ends the member. -/
def modifierFollows : Reading Bool := do
  let token ← peek
  if token.cls == .word && memberModifiers.contains token.text then
    let second ← peekSecond
    let named := startsPropertyName second || second.isMark "*"
    let broken := second.newline && token.text != "abstract" && token.text != "accessor"
    return named && !broken
  return false

private def objectTypeMember (rule : Grammar) : Reading Unit := do
  let first ← mark
  let second ← peekSecond
  if (← atMark "(") || (← atMark "<") then
    signature rule
    wrap first .callSignature
  else if ((← atWord "new") && (second.isMark "(" || second.isMark "<")) ||
      ((← atWord "abstract") && second.isWord "new") then
    let _ ← optionalWord "abstract"
    expectWord "new"
    optionalTypeParameters rule
    labelled .parameters (rule .formalParameters)
    optionalDeclaredType rule
    wrap first .constructSignature
  else if ← indexSignatureFollows then indexSignature rule
  else
    repeatWhile do
      if ← modifierFollows then
        takeAs (modifierKind (← peek).text)
        pure true
      else pure false
    let _ ← optionalMark "*"
    labelled .name (propertyName rule)
    let _ ← optionalMark "?"
    if (← atMark "(") || (← atMark "<") then
      signature rule
      wrap first .methodSignature
    else
      optionalDeclaredType rule
      wrap first .propertySignature

def objectType (rule : Grammar) : Reading Unit :=
  node .objectType do
    expectMark "\x7b"
    inBrackets <| repeatWhile do
      if ← atMark "\x7d" then pure false
      else if (← optionalMark ",") || (← optionalMark ";") then pure true
      else
        objectTypeMember rule
        if (← optionalMark ",") || (← optionalMark ";") then pure true
        else
          require (endsStatement (← peek))
          pure true
    expectMark "\x7d"

private def literalType (kind : Kind) : Reading Unit := node .literalType (takeAs kind)

private def primaryType (rule : Grammar) : Reading Unit := do
  let token ← peek
  match token.cls with
  | .string => literalType .string
  | .number => literalType .number
  | .mark =>
    match token.text with
    | "(" =>
      node .parenthesizedType do
        take
        inBrackets (rule .type)
        expectMark ")"
    | "[" =>
      node .tupleType do
        take
        inBrackets (commaList "]" (tupleMember rule))
    | "\x7b" => rule .objectType
    | "\x60" => template .templateLiteralType .templateType (rule .type)
    | "-" | "+" =>
      node .literalType <| node .unaryExpression do
        take
        require ((← peek).cls == .number)
        labelled .argument (takeAs .number)
    | _ => fail
  | .word =>
    match token.text with
    | "this" => takeAs .thisType
    | "true" => literalType .trueLiteral
    | "false" => literalType .falseLiteral
    | "null" => literalType .nullLiteral
    | "undefined" => literalType .undefinedLiteral
    | "const" => take
    | "import" => importType rule
    | "typeof" =>
      node .typeQuery do
        take
        queriedValue rule
    | text => if predefinedTypes.contains text then takeAs .predefinedType else namedType rule
  | _ => fail

private def postfixType (rule : Grammar) : Reading Unit := do
  let first ← mark
  primaryType rule
  repeatWhile do
    let token ← peek
    if token.isMark "[" && !token.newline then
      take
      if ← optionalMark "]" then wrap first .arrayType
      else
        inBrackets (rule .type)
        expectMark "]"
        wrap first .lookupType
      pure true
    else pure false

/-- Whether a token can begin a type, so that a word before it is an operator on types. -/
private def startsType (token : Token) : Bool :=
  match token.cls with
  | .word => token.text != "extends" && token.text != "is" && token.text != "in" && token.text != "as"
  | .string | .number => true
  | .mark => ["(", "[", "\x7b", "\x60"].contains token.text
  | _ => false

/-- A type without `|`, `&` and `extends` at its top. -/
def typeOperand (rule : Grammar) : Reading Unit := do
  let token ← peek
  let second ← peekSecond
  let operator := startsType second && !second.newline
  if token.isMark "<" then functionType rule
  else if token.isMark "(" then
    if ← attempt (functionType rule) then pure () else postfixType rule
  else if token.isWord "new" || (token.isWord "abstract" && second.isWord "new") then
    constructorType rule
  else if token.isWord "keyof" && operator then
    node .indexTypeQuery do
      take
      rule .typeOperand
  else if token.isWord "readonly" && operator then
    node .readonlyType do
      take
      rule .typeOperand
  else if token.isWord "unique" && second.isWord "symbol" then
    node .predefinedType do
      take
      take
  else if token.isWord "infer" && second.cls == .word && !second.newline then
    node .inferType do
      take
      anyWord .typeIdentifier
      if ← atWord "extends" then
        take
        rule .typeOperand
  else postfixType rule

private def joinedTypes (joint : String) (kind : Kind) (operand : Reading Unit) : Reading Unit := do
  let first ← mark
  if ← optionalMark joint then
    operand
    wrap first kind
  else operand
  repeatWhile do
    if ← optionalMark joint then
      operand
      wrap first kind
      pure true
    else pure false

private def unionType (rule : Grammar) : Reading Unit :=
  joinedTypes "|" .unionType (joinedTypes "&" .intersectionType (rule .typeOperand))

def fullType (rule : Grammar) : Reading Unit := do
  let first ← mark
  unionType rule
  let token ← peek
  if token.isWord "extends" && !token.newline then
    if ← attempt (do
        labelAt first .left
        take
        labelled .right (unionType rule)
        expectMark "?"
        labelled .consequence (rule .type)
        expectMark ":"
        labelled .alternative (rule .type)) then
      wrap first .conditionalType

end ModuleScope.TypeScript.Reading
