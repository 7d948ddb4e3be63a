/-!
Kinds of syntax nodes of TypeScript and TSX, and the labels under which a node holds its parts.
-/
namespace ModuleScope.TypeScript

inductive Dialect where
  | typescript
  | tsx
deriving DecidableEq, Repr

structure UnsupportedLanguage where
  name : String
deriving DecidableEq, Repr

def UnsupportedLanguage.message (fault : UnsupportedLanguage) : String :=
  s!"Unsupported language: {fault.name}"

namespace Dialect

def label : Dialect → String
  | typescript => "typescript"
  | tsx => "tsx"

def ofLabel (label : String) : Except UnsupportedLanguage Dialect :=
  match [typescript, tsx].find? fun dialect => dialect.label == label with
  | some dialect => .ok dialect
  | none => .error ⟨label⟩

end Dialect

/-- The kind of a syntax node. `token` is a keyword or a mark that has no name of its own; every
other kind is a named one. -/
inductive Kind where
  | token
  | error
  | comment
  | hashBangLine
  -- names
  | identifier
  | propertyIdentifier
  | typeIdentifier
  | shorthandPropertyIdentifier
  | shorthandPropertyIdentifierPattern
  | privatePropertyIdentifier
  | statementIdentifier
  | nestedIdentifier
  | computedPropertyName
  -- statements
  | program
  | importStatement
  | importClause
  | namespaceImport
  | namedImports
  | importSpecifier
  | importRequireClause
  | importAttribute
  | importAlias
  | exportStatement
  | exportClause
  | exportSpecifier
  | namespaceExport
  | expressionStatement
  | lexicalDeclaration
  | variableDeclaration
  | variableDeclarator
  | statementBlock
  | elseClause
  | ifStatement
  | switchStatement
  | switchBody
  | switchCase
  | switchDefault
  | forStatement
  | forInStatement
  | whileStatement
  | doStatement
  | tryStatement
  | catchClause
  | finallyClause
  | withStatement
  | breakStatement
  | continueStatement
  | debuggerStatement
  | returnStatement
  | throwStatement
  | emptyStatement
  | labeledStatement
  -- declarations
  | functionDeclaration
  | generatorFunctionDeclaration
  | functionSignature
  | classDeclaration
  | abstractClassDeclaration
  | classExpression
  | classHeritage
  | extendsClause
  | implementsClause
  | classBody
  | classStaticBlock
  | decorator
  | publicFieldDefinition
  | methodDefinition
  | methodSignature
  | abstractMethodSignature
  | accessibilityModifier
  | overrideModifier
  | interfaceDeclaration
  | interfaceBody
  | extendsTypeClause
  | typeAliasDeclaration
  | enumDeclaration
  | enumBody
  | enumAssignment
  | internalModule
  | externalModule
  | ambientDeclaration
  | formalParameters
  | requiredParameter
  | optionalParameter
  -- patterns
  | objectPattern
  | arrayPattern
  | pairPattern
  | assignmentPattern
  | objectAssignmentPattern
  | restPattern
  -- expressions
  | thisExpression
  | superExpression
  | nullLiteral
  | trueLiteral
  | falseLiteral
  | undefinedLiteral
  | number
  | string
  | templateString
  | templateSubstitution
  | regex
  | object
  | pair
  | array
  | spreadElement
  | functionExpression
  | generatorFunction
  | arrowFunction
  | importKeyword
  | metaProperty
  | parenthesizedExpression
  | sequenceExpression
  | memberExpression
  | subscriptExpression
  | callExpression
  | arguments
  | optionalChain
  | newExpression
  | nonNullExpression
  | assignmentExpression
  | augmentedAssignmentExpression
  | awaitExpression
  | yieldExpression
  | unaryExpression
  | updateExpression
  | binaryExpression
  | ternaryExpression
  | asExpression
  | satisfiesExpression
  | instantiationExpression
  | typeAssertion
  -- types
  | declaredType
  | declaredAssertion
  | declaredPredicate
  | omittingType
  | addingType
  | optingType
  | asserts
  | typePredicate
  | typeParameters
  | typeParameter
  | typeArguments
  | constraint
  | defaultType
  | predefinedType
  | nestedTypeIdentifier
  | genericType
  | objectType
  | propertySignature
  | callSignature
  | constructSignature
  | indexSignature
  | mappedTypeClause
  | arrayType
  | tupleType
  | optionalType
  | restType
  | unionType
  | intersectionType
  | conditionalType
  | functionType
  | constructorType
  | inferType
  | readonlyType
  | typeQuery
  | indexTypeQuery
  | lookupType
  | thisType
  | literalType
  | templateLiteralType
  | templateType
  | parenthesizedType
  -- markup in TSX
  | jsxElement
  | jsxSelfClosingElement
  | jsxOpeningElement
  | jsxClosingElement
  | jsxAttribute
  | jsxExpression
  | jsxNamespaceName
  | jsxText
deriving DecidableEq, Repr

inductive Label where
  | otherName
  | alternative
  | argument
  | arguments
  | attribute
  | body
  | closeTag
  | condition
  | consequence
  | constraint
  | constructor
  | declaration
  | decorator
  | finalizer
  | function
  | handler
  | increment
  | index
  | indexType
  | initializer
  | key
  | left
  | moduleName
  | name
  | object
  | openTag
  | parameter
  | parameters
  | pattern
  | property
  | returnType
  | right
  | source
  | statementLabel
  | type
  | typeArguments
  | typeParameters
  | value
deriving DecidableEq, Repr

namespace Kind

/-- Kinds that carry a name a search compares with. -/
def isIdentifier : Kind → Bool
  | identifier | propertyIdentifier | typeIdentifier | shorthandPropertyIdentifier
  | shorthandPropertyIdentifierPattern => true
  | _ => false

def isClass : Kind → Bool
  | classDeclaration | abstractClassDeclaration | classExpression => true
  | _ => false

def isTypeDeclaration (kind : Kind) : Bool :=
  kind.isClass || match kind with
    | interfaceDeclaration | typeAliasDeclaration | enumDeclaration => true
    | _ => false

def isFunction : Kind → Bool
  | functionDeclaration | generatorFunctionDeclaration => true
  | _ => false

def isMethod : Kind → Bool
  | methodDefinition | methodSignature | abstractMethodSignature => true
  | _ => false

def isField : Kind → Bool
  | publicFieldDefinition | propertySignature => true
  | _ => false

/-- Declarations that hold the name they introduce under `name`. -/
def namesDeclaration (kind : Kind) : Bool :=
  kind.isTypeDeclaration || kind.isFunction || kind.isMethod || kind.isField ||
    kind == variableDeclarator

def isParameter : Kind → Bool
  | requiredParameter | optionalParameter => true
  | _ => false

def isVariableDeclaration : Kind → Bool
  | lexicalDeclaration | variableDeclaration => true
  | _ => false

end Kind

end ModuleScope.TypeScript
