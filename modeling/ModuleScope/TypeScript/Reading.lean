import ModuleScope.TypeScript.Token

/-!
Reading a text into syntax nodes. A reading takes tokens one by one and keeps the finished nodes of
the node being read in a row; `wrap` turns the end of that row into one node, so that a construct
whose kind shows only later can still be closed around what was read before it.
-/
namespace ModuleScope.TypeScript

structure Context where
  dialect : Dialect
  /-- Number of characters of the whole text; nothing repeats more often. -/
  limit : Nat
  /-- Whether `in` is an operator here; it is not in the head of a `for`. -/
  allowIn : Bool := true
  /-- Whether a `:` must follow, as in the middle of `a ? b : c`. -/
  colonFollows : Bool := false
deriving Repr

structure State where
  place : Place
  token : Token
  stop : Nat
  nodes : Array Tree
  /-- Comments passed, latest first. -/
  comments : List Span
  /-- Starts of brackets that are known not to open an arrow function. -/
  refused : List Nat
  context : Context

/-- A reading either succeeds or fails; a failure keeps what was learnt about brackets. -/
inductive Outcome (α : Type) where
  | done (value : α) (state : State)
  | failed (refused : List Nat)

def Reading (α : Type) : Type := State → Outcome α

namespace Reading

instance : Monad Reading where
  pure value := fun state => .done value state
  bind first next := fun state =>
    match first state with
    | .done value state => next value state
    | .failed refused => .failed refused

def fail {α : Type} : Reading α := fun state => .failed state.refused

def get : Reading State := fun state => .done state state

def modify (change : State → State) : Reading Unit := fun state => .done () (change state)

def orElse {α : Type} (first second : Reading α) : Reading α := fun state =>
  match first state with
  | .done value state => .done value state
  | .failed refused => second { state with refused }

/-- Tries a reading and tells whether it succeeded; a failed one leaves no trace in the nodes. -/
def attempt (reading : Reading Unit) : Reading Bool :=
  orElse (do reading; pure true) (pure false)

def require (condition : Bool) : Reading Unit := if condition then pure () else fail

def ahead {α : Type} (reading : Reading α) : Reading Bool := fun state =>
  match reading state with
  | .done _ after => .done true { state with refused := after.refused }
  | .failed refused => .done false { state with refused }

private def repeatUpTo (step : Reading Bool) : Nat → Reading Unit
  | 0 => pure ()
  | count + 1 => do
    let start := (← get).place.offset
    if ← step then
      if start < (← get).place.offset then repeatUpTo step count

/-- Repeats a step for as long as it says so and takes some text. -/
def repeatWhile (step : Reading Bool) : Reading Unit := do
  repeatUpTo step ((← get).context.limit + 1)

def peek : Reading Token := return (← get).token

def peekSecond : Reading Token := return readToken (← get).token.after

def atMark (text : String) : Reading Bool := return (← peek).isMark text

def atWord (text : String) : Reading Bool := return (← peek).isWord text

/-- Number of finished nodes, to be given to `wrap` later. -/
def mark : Reading Nat := return (← get).nodes.size

private def passTo (place : Place) (tree : Tree) (state : State) : State :=
  { state with
    place
    token := readToken place
    stop := place.offset
    nodes := state.nodes.push tree }

def takeAs (kind : Kind) : Reading Unit := modify fun state =>
  let token := state.token
  passTo token.after (.node kind none token.span [])
    { state with comments := (token.comments.map Comment.span).reverse ++ state.comments }

def take : Reading Unit := takeAs .token

/-- Takes a stretch of text, from the start of the token that follows, as a leaf. -/
def takeStretch (kind : Kind) (count : Nat) : Reading Unit := modify fun state =>
  let token := state.token
  let place := token.before.advance count
  passTo place (.node kind none ⟨token.before.offset, place.offset⟩ [])
    { state with comments := (token.comments.map Comment.span).reverse ++ state.comments }

/-- Takes a stretch of text, directly after the last token, as a leaf. -/
def takeText (kind : Kind) (count : Nat) : Reading Unit := modify fun state =>
  let place := state.place.advance count
  passTo place (.node kind none ⟨state.place.offset, place.offset⟩ []) state

def skipText (count : Nat) : Reading Unit := modify fun state =>
  let place := state.place.advance count
  { state with place, token := readToken place, stop := place.offset }

def expectMark (text : String) : Reading Unit := do
  if ← atMark text then take else fail

def expectWord (text : String) : Reading Unit := do
  if ← atWord text then take else fail

def optionalMark (text : String) : Reading Bool := do
  if ← atMark text then take; pure true else pure false

def optionalWord (text : String) : Reading Bool := do
  if ← atWord text then take; pure true else pure false

/-- Closes a node of the given kind around every node finished since `first`. -/
def wrap (first : Nat) (kind : Kind) : Reading Unit := modify fun state =>
  let inside := state.nodes.extract first state.nodes.size
  let start := match inside[0]? with
    | some tree => tree.start
    | none => state.stop
  { state with
    nodes := (state.nodes.extract 0 first).push
      (.node kind none ⟨start, max start state.stop⟩ inside.toList) }

def node (kind : Kind) (inside : Reading Unit) : Reading Unit := do
  let first ← mark
  inside
  wrap first kind

def labelAt (position : Nat) (label : Label) : Reading Unit := modify fun state =>
  { state with nodes := state.nodes.modify position fun tree => tree.withLabel label }

def changeAt (position : Nat) (change : Tree → Tree) : Reading Unit := modify fun state =>
  { state with nodes := state.nodes.modify position change }

def labelled (label : Label) (reading : Reading Unit) : Reading Unit := do
  let first ← mark
  reading
  let last ← mark
  if first < last then labelAt (last - 1) label

def inContext (change : Context → Context) (reading : Reading Unit) : Reading Unit := do
  let outer := (← get).context
  modify fun state => { state with context := change state.context }
  reading
  modify fun state => { state with context := outer }

/-- Reads inside brackets, where neither restriction of the context holds. -/
def inBrackets (reading : Reading Unit) : Reading Unit :=
  inContext (fun context => { context with allowIn := true, colonFollows := false }) reading

/-- Items between commas, up to the closing mark; items may be missing. -/
def commaList (closing : String) (item : Reading Unit) : Reading Unit := do
  repeatWhile do
    if ← atMark closing then pure false
    else if ← optionalMark "," then pure true
    else
      item
      if ← atMark closing then pure false
      else
        expectMark ","
        pure true
  expectMark closing

/-- Marks before which a line break does not end a statement. -/
private def continuesLine (token : Token) : Bool :=
  match token.cls with
  | .mark =>
    match token.text.toList.head? with
    | some '!' => token.text != "!"
    | some '+' => token.text != "++"
    | some '-' => token.text != "--"
    | some c => "\x60,.;*%><=?^|&/:".toList.contains c
    | none => false
  | .word => token.text == "in" || token.text == "instanceof"
  | _ => false

/-- Where a statement may end without a semicolon: before a closing brace, at the end of the text,
and at a line break unless the next token continues the line. -/
def endsStatement (token : Token) : Bool :=
  token.cls == .endOfText || token.isMark "\x7d" || (token.newline && !continuesLine token)

/-- Ends a node without a semicolon where that is possible. Comments that stand on the line of the
last token are then inside the node. -/
def automaticEnd : Reading Unit := do
  let state ← get
  if endsStatement state.token then
    match (state.token.comments.takeWhile fun comment => !comment.ownLine).getLast? with
    | some comment => modify fun state => { state with stop := comment.span.stop }
    | none => pure ()

def semicolon : Reading Unit := do
  if ← optionalMark ";" then pure ()
  else
    require (endsStatement (← peek))
    automaticEnd

end Reading

end ModuleScope.TypeScript
