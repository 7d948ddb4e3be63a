import ModuleScope.TypeScript.Grammar.Expressions

/-!
Statements and declarations. Words such as `type` or `declare` begin a declaration only where what
follows on their line says so.
-/
namespace ModuleScope.TypeScript.Reading

def statementBlock (rule : Grammar) : Reading Unit :=
  node .statementBlock do
    expectMark "\x7b"
    inBrackets <| repeatWhile do
      if ← atMark "\x7d" then pure false
      else
        rule .statement
        pure true
    expectMark "\x7d"
    automaticEnd

private def parenthesizedCondition (rule : Grammar) : Reading Unit :=
  node .parenthesizedExpression do
    expectMark "("
    inBrackets (rule .expressions)
    expectMark ")"

/-- What a declaration, a loop over elements or a handler binds; there `undefined` is a name like any
other. -/
private def variableName (rule : Grammar) : Reading Unit := do
  if (← peek).isWord "undefined" then takeAs .identifier else rule .pattern

private def variableDeclarator (rule : Grammar) : Reading Unit :=
  node .variableDeclarator do
    labelled .name (variableName rule)
    let _ ← optionalMark "!"
    optionalDeclaredType rule
    optionalInitializer rule

private def variableDeclarators (rule : Grammar) : Reading Unit := do
  variableDeclarator rule
  repeatWhile do
    if ← optionalMark "," then
      variableDeclarator rule
      pure true
    else pure false

private def variableKind (token : Token) : Kind :=
  if token.isWord "var" then .variableDeclaration else .lexicalDeclaration

private def variableStatement (rule : Grammar) : Reading Unit := do
  let kind := variableKind (← peek)
  node kind do
    take
    variableDeclarators rule
    semicolon

private def expressionStatement (rule : Grammar) : Reading Unit :=
  node .expressionStatement do
    rule .expressions
    semicolon

/-- A function declared by a statement; without a body it is a signature. -/
private def functionDeclaration (rule : Grammar) : Reading Unit := do
  let first ← mark
  let _ ← optionalWord "async"
  expectWord "function"
  let generator ← optionalMark "*"
  labelled .name identifier
  signature rule
  if ← atMark "\x7b" then
    labelled .body (rule .statementBlock)
    wrap first (if generator then .generatorFunctionDeclaration else .functionDeclaration)
  else
    semicolon
    wrap first .functionSignature

private def classDeclaration (rule : Grammar) (first : Nat) : Reading Unit := do
  let isAbstract ← optionalWord "abstract"
  expectWord "class"
  require ((← peek).cls == .word)
  classRest rule
  if !isAbstract then automaticEnd
  wrap first (if isAbstract then .abstractClassDeclaration else .classDeclaration)

private def interfaceDeclaration (rule : Grammar) : Reading Unit :=
  node .interfaceDeclaration do
    expectWord "interface"
    labelled .name (anyWord .typeIdentifier)
    optionalTypeParameters rule
    if ← atWord "extends" then
      node .extendsTypeClause do
        take
        labelled .type (namedType rule)
        repeatWhile do
          if ← optionalMark "," then
            labelled .type (namedType rule)
            pure true
          else pure false
    let body ← mark
    rule .objectType
    changeAt body fun tree => tree.withKind .interfaceBody
    labelAt body .body

private def typeAliasDeclaration (rule : Grammar) : Reading Unit :=
  node .typeAliasDeclaration do
    expectWord "type"
    labelled .name (anyWord .typeIdentifier)
    optionalTypeParameters rule
    expectMark "="
    labelled .value (rule .type)
    semicolon

private def enumMember (rule : Grammar) : Reading Unit := do
  let first ← mark
  labelled .name (propertyName rule)
  if ← atMark "=" then
    initializer rule
    wrap first .enumAssignment

private def enumDeclaration (rule : Grammar) : Reading Unit :=
  node .enumDeclaration do
    let _ ← optionalWord "const"
    expectWord "enum"
    labelled .name identifier
    labelled .body <| node .enumBody do
      expectMark "\x7b"
      inBrackets (commaList "\x7d" (enumMember rule))

private def moduleRest (rule : Grammar) : Reading Unit := do
  if (← peek).cls == .string then labelled .name (takeAs .string)
  else labelled .name dottedName
  if ← atMark "\x7b" then labelled .body (rule .statementBlock)

private def internalModule (rule : Grammar) : Reading Unit :=
  node .internalModule do
    expectWord "namespace"
    moduleRest rule

private def externalModule (rule : Grammar) : Reading Unit :=
  node .externalModule do
    expectWord "module"
    moduleRest rule

private def importAlias (first : Nat) : Reading Unit := do
  identifier
  expectMark "="
  dottedName
  semicolon
  wrap first .importAlias

private def aliasFollows : Reading Bool := ahead (do anyWord .identifier; expectMark "=")

/-- Whether the words that follow begin a declaration, line breaks considered. -/
private def declarationFollows : Reading Bool := do
  let token ← peek
  let second ← peekSecond
  let near := !second.newline
  if token.cls != .word then return false
  match token.text with
  | "function" | "class" | "interface" | "enum" => return true
  | "var" => return true
  | "const" => return true
  | "let" => return second.cls == .word || second.isMark "[" || second.isMark "\x7b"
  | "abstract" => return second.isWord "class"
  | "async" => return second.isWord "function" && near
  | "type" => return second.cls == .word && near && second.text != "in" && second.text != "instanceof" &&
      (← ahead (do take; take; require ((← atMark "=") || (← atMark "<"))))
  | "namespace" => return second.cls == .word && near
  | "module" => return (second.cls == .word || second.cls == .string) && near
  | "declare" => return second.cls == .word && near && second.text != "in" && second.text != "instanceof"
  | "import" => return second.cls == .word && (readToken second.after).isMark "="
  | _ => return false

/-- A declaration, as it may follow `export` or `declare`; `nested` reads one after `declare`. -/
private def declarationWith (rule : Grammar) (nested : Reading Unit) : Reading Unit := do
  let token ← peek
  let second ← peekSecond
  let first ← mark
  match token.text with
  | "function" | "async" => functionDeclaration rule
  | "class" | "abstract" => classDeclaration rule first
  | "interface" => interfaceDeclaration rule
  | "enum" => enumDeclaration rule
  | "const" => if second.isWord "enum" then enumDeclaration rule else variableStatement rule
  | "let" | "var" => variableStatement rule
  | "type" => typeAliasDeclaration rule
  | "namespace" => internalModule rule
  | "module" => externalModule rule
  | "import" =>
    take
    importAlias first
  | "declare" =>
    take
    if ← atWord "global" then
      take
      rule .statementBlock
    else nested
    wrap first .ambientDeclaration
  | _ => fail

private def declaration (rule : Grammar) : Reading Unit :=
  declarationWith rule (declarationWith rule fail)

private def fromClause : Reading Unit := do
  expectWord "from"
  labelled .source stringLiteral

private def exportedName : Reading Unit := do
  if (← peek).cls == .string then takeAs .string else anyWord .identifier

private def specifier (kind : Kind) : Reading Unit :=
  node kind do
    let second ← peekSecond
    let modified := (second.cls == .word && second.text != "as") || second.cls == .string ||
      (second.isWord "as" && (← ahead do
        take
        take
        anyWord .identifier
        require (← atWord "as")))
    if ((← atWord "type") || (← atWord "typeof")) && modified then take
    labelled .name exportedName
    if ← optionalWord "as" then labelled .otherName exportedName

private def importAttributes (rule : Grammar) : Reading Unit := do
  let token ← peek
  if (token.isWord "with" || token.isWord "assert") && !token.newline then
    node .importAttribute do
      take
      rule .expression

private def namedImports : Reading Unit := do
  if ← atMark "*" then
    node .namespaceImport do
      take
      expectWord "as"
      identifier
  else
    node .namedImports do
      expectMark "\x7b"
      commaList "\x7d" (specifier .importSpecifier)

private def importStatement (rule : Grammar) : Reading Unit := do
  let first ← mark
  expectWord "import"
  let second ← peekSecond
  if ((← atWord "type") || (← atWord "typeof")) &&
      ((second.cls == .word && (second.text != "from" || (readToken second.after).isWord "from")) ||
        second.isMark "\x7b" || second.isMark "*") then take
  if (← peek).cls == .string then
    labelled .source stringLiteral
    importAttributes rule
    semicolon
    wrap first .importStatement
  else if ← aliasFollows then
    if ← ahead (do anyWord .identifier; expectMark "="; expectWord "require"; expectMark "(") then
      node .importRequireClause do
        identifier
        expectMark "="
        take
        take
        labelled .source stringLiteral
        expectMark ")"
      semicolon
      wrap first .importStatement
    else importAlias first
  else
    node .importClause do
      if (← peek).cls == .word then
        anyWord .identifier
        if ← optionalMark "," then namedImports
      else namedImports
    fromClause
    importAttributes rule
    semicolon
    wrap first .importStatement

private def exportClause : Reading Unit :=
  node .exportClause do
    expectMark "\x7b"
    commaList "\x7d" (specifier .exportSpecifier)

private def exportDefault (rule : Grammar) : Reading Unit := do
  let first ← mark
  decorators rule
  let decorated ← mark
  let declared ← attempt do
    if (← atWord "class") || (← atWord "abstract") then
      let second ← peekSecond
      require ((← atWord "abstract") ||
        (second.cls == .word && second.text != "extends" && second.text != "implements"))
      classDeclaration rule first
    else
      require (first == decorated)
      require ((← atWord "function") || (← atWord "interface") ||
        ((← atWord "async") && (← peekSecond).isWord "function"))
      declaration rule
  if declared then labelAt first .declaration
  else if first < decorated then
    expectWord "class"
    classRest rule
    wrap first .classExpression
    labelAt first .value
    semicolon
  else
    labelled .value (rule .expression)
    semicolon

private def exportStatement (rule : Grammar) (first : Nat) : Reading Unit := do
  expectWord "export"
  let token ← peek
  let second ← peekSecond
  if token.isMark "*" then
    if second.isWord "as" then
      node .namespaceExport do
        take
        take
        exportedName
    else take
    fromClause
    importAttributes rule
    semicolon
  else if token.isMark "\x7b" || (token.isWord "type" && second.isMark "\x7b") then
    let _ ← optionalWord "type"
    exportClause
    if ← atWord "from" then
      fromClause
      importAttributes rule
    semicolon
  else if token.isWord "type" && second.isMark "*" then
    take
    take
    if ← optionalWord "as" then exportedName
    fromClause
    semicolon
  else if token.isMark "=" then
    take
    rule .expression
    semicolon
  else if token.isWord "as" && second.isWord "namespace" then
    take
    take
    identifier
    semicolon
  else if token.isWord "default" then
    take
    exportDefault rule
  else if token.isWord "import" then
    take
    let own ← mark
    importAlias own
  else if token.isMark "@" then
    let own ← mark
    decorators rule
    classDeclaration rule own
    labelAt own .declaration
  else labelled .declaration (declaration rule)
  wrap first .exportStatement

private def ifStatement (rule : Grammar) : Reading Unit :=
  node .ifStatement do
    take
    labelled .condition (parenthesizedCondition rule)
    labelled .consequence (rule .statement)
    if ← atWord "else" then
      labelled .alternative <| node .elseClause do
        take
        rule .statement

private def statementsUntilCase (rule : Grammar) : Reading Unit :=
  repeatWhile do
    if (← atWord "case") || (← atWord "default") || (← atMark "\x7d") then pure false
    else
      labelled .body (rule .statement)
      pure true

private def switchStatement (rule : Grammar) : Reading Unit :=
  node .switchStatement do
    take
    labelled .value (parenthesizedCondition rule)
    labelled .body <| node .switchBody do
      expectMark "\x7b"
      inBrackets <| repeatWhile do
        if ← atWord "case" then
          node .switchCase do
            take
            labelled .value (rule .expressions)
            expectMark ":"
            statementsUntilCase rule
          pure true
        else if ← atWord "default" then
          node .switchDefault do
            take
            expectMark ":"
            statementsUntilCase rule
          pure true
        else pure false
      expectMark "\x7d"

/-- The head of a loop over the items of something; fails for any other head. -/
private def eachHead (rule : Grammar) : Reading Unit := do
  expectMark "("
  let token ← peek
  if token.isWord "var" || token.isWord "const" ||
      (token.isWord "let" && !(← peekSecond).isWord "of" && !(← peekSecond).isWord "in") then
    take
    labelled .left (variableName rule)
    if ← atMark "=" then inContext (fun context => { context with allowIn := false }) (initializer rule)
  else
    let left ← mark
    inContext (fun context => { context with allowIn := false }) (rule .unary)
    changeAt left Tree.toPattern
    labelAt left .left
  require ((← atWord "of") || (← atWord "in"))
  take
  inBrackets (labelled .right (rule .expressions))
  expectMark ")"

private def countedHead (rule : Grammar) : Reading Unit := do
  expectMark "("
  let token ← peek
  if ← atMark ";" then labelled .initializer (node .emptyStatement take)
  else
    labelled .initializer <| inContext (fun context => { context with allowIn := false }) do
      if token.isWord "var" || token.isWord "const" || token.isWord "let" then
        node (variableKind token) do
          take
          variableDeclarators rule
          expectMark ";"
      else
        node .expressionStatement do
          rule .expressions
          expectMark ";"
  inBrackets do
    if ← atMark ";" then labelled .condition (node .emptyStatement take)
    else
      labelled .condition <| node .expressionStatement do
        rule .expressions
        expectMark ";"
    if !(← atMark ")") then labelled .increment (rule .expressions)
  expectMark ")"

private def forStatement (rule : Grammar) : Reading Unit := do
  let first ← mark
  take
  let _ ← optionalWord "await"
  let kind : Kind := if ← attempt (eachHead rule) then .forInStatement else .forStatement
  if kind == .forStatement then countedHead rule
  labelled .body (rule .statement)
  wrap first kind

private def tryStatement (rule : Grammar) : Reading Unit :=
  node .tryStatement do
    take
    labelled .body (rule .statementBlock)
    if ← atWord "catch" then
      labelled .handler <| node .catchClause do
        take
        if ← optionalMark "(" then
          labelled .parameter (variableName rule)
          optionalDeclaredType rule
          expectMark ")"
        labelled .body (rule .statementBlock)
    if ← atWord "finally" then
      labelled .finalizer <| node .finallyClause do
        take
        labelled .body (rule .statementBlock)

private def jump (kind : Kind) : Reading Unit :=
  node kind do
    take
    let token ← peek
    if isIdentifier token && !token.newline then
      labelled .statementLabel (takeAs .statementIdentifier)
    semicolon

private def decoratedStatement (rule : Grammar) : Reading Unit := do
  let first ← mark
  decorators rule
  if ← atWord "export" then exportStatement rule first else classDeclaration rule first

private def wordStatement (rule : Grammar) : Reading Bool := do
  let token ← peek
  let second ← peekSecond
  if token.cls != .word then return false
  if second.isMark ":" && isIdentifier token then
    node .labeledStatement do
      labelled .statementLabel (takeAs .statementIdentifier)
      take
      labelled .body (rule .statement)
    return true
  match token.text with
  | "if" => ifStatement rule
  | "for" => forStatement rule
  | "switch" => switchStatement rule
  | "try" => tryStatement rule
  | "break" => jump .breakStatement
  | "continue" => jump .continueStatement
  | "while" =>
    node .whileStatement do
      take
      labelled .condition (parenthesizedCondition rule)
      labelled .body (rule .statement)
  | "do" =>
    node .doStatement do
      take
      labelled .body (rule .statement)
      expectWord "while"
      labelled .condition (parenthesizedCondition rule)
      let _ ← optionalMark ";"
  | "with" =>
    node .withStatement do
      take
      labelled .object (parenthesizedCondition rule)
      labelled .body (rule .statement)
  | "return" =>
    node .returnStatement do
      take
      if !endsStatement (← peek) && !(← peek).newline && !(← atMark ";") then rule .expressions
      semicolon
  | "throw" =>
    node .throwStatement do
      take
      rule .expressions
      semicolon
  | "debugger" =>
    node .debuggerStatement do
      take
      semicolon
  | "export" =>
    let first ← mark
    exportStatement rule first
  | "import" =>
    if second.isMark "(" || second.isMark "." then expressionStatement rule
    else importStatement rule
  | "namespace" =>
    if second.cls == .word && !second.newline then
      node .expressionStatement do
        internalModule rule
        automaticEnd
    else expressionStatement rule
  | _ =>
    if ← declarationFollows then declaration rule else return false
  return true

def statement (rule : Grammar) : Reading Unit := do
  let token ← peek
  if token.isMark "\x7b" then rule .statementBlock
  else if token.isMark ";" then node .emptyStatement take
  else if token.isMark "@" then decoratedStatement rule
  else if ← wordStatement rule then pure ()
  else expressionStatement rule

end ModuleScope.TypeScript.Reading
