import ModuleScope.TypeScript.Grammar.Classes
import ModuleScope.TypeScript.Grammar.Markup
import ModuleScope.TypeScript.Grammar.Statements

/-!
From text to syntax tree. The grammar is closed here, and comments, which it passes over, are put where
they stand.
-/
namespace ModuleScope.TypeScript

/-- The grammar, for constructs nested at most so deep. -/
def grammar : Nat → Grammar
  | 0 => fun _ => Reading.fail
  | depth + 1 => fun rule =>
    let inner := grammar depth
    match rule with
    | .statement => Reading.statement inner
    | .statementBlock => Reading.statementBlock inner
    | .expression => Reading.expression inner
    | .expressions => Reading.expressions inner
    | .binary level => Reading.binary inner level
    | .unary => Reading.unary inner
    | .newExpression => Reading.newExpression inner
    | .pattern => Reading.pattern inner
    | .type => Reading.fullType inner
    | .typeOperand => Reading.typeOperand inner
    | .objectType => Reading.objectType inner
    | .formalParameters => Reading.formalParameters inner
    | .classBody => Reading.classBody inner
    | .markupElement => Reading.markupElement inner

namespace Reading

/-- A whole text. A token with which no statement begins is set aside as an error. -/
def program (rule : Grammar) : Reading Unit := do
  let rest := (← get).place.rest
  if ['#', '!'].isPrefixOf rest then
    takeText .hashBangLine (rest.takeWhile (· != '\n')).length
  repeatWhile do
    if (← peek).cls == .endOfText then pure false
    else if ← attempt (rule .statement) then pure true
    else
      takeAs .error
      pure true

end Reading

namespace Tree

/-- Puts a leaf into the innermost node whose text it stands in. -/
def insertLeaf (leaf : Tree) : Tree → Tree
  | node kind label span children => node kind label span (among children)
where
  among : List Tree → List Tree
    | [] => [leaf]
    | child :: rest =>
      if leaf.stop ≤ child.start then leaf :: child :: rest
      else if child.start < leaf.start && leaf.stop ≤ child.stop then insertLeaf leaf child :: rest
      else child :: among rest

def insertComments (comments : List Span) (tree : Tree) : Tree :=
  comments.foldl (fun tree span => insertLeaf (.node .comment none span []) tree) tree

end Tree

def byteLength (text : List Char) : Nat := text.foldl (fun total c => total + c.utf8Size) 0

def parse (dialect : Dialect) (text : List Char) : Tree :=
  let limit := text.length
  let length := byteLength text
  let place : Place := ⟨text, 0⟩
  let start : State :=
    { place, token := readToken place, stop := 0, nodes := #[], comments := [], refused := [],
      context := { dialect, limit } }
  match Reading.program (grammar (16 * (limit + 1))) start with
  | .failed _ => .node .program none ⟨0, length⟩ []
  | .done _ state =>
    let comments := (state.token.comments.map Comment.span).reverse ++ state.comments
    Tree.insertComments comments.reverse (.node .program none ⟨0, length⟩ state.nodes.toList)

end ModuleScope.TypeScript
