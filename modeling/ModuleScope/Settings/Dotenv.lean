import ModuleScope.Text.Basic

/-!
Environment variables, and files of them. A binding is a key, an equals sign and a value, which may stand in
quotation marks and then spans lines; a line that is no binding is passed over. Values may refer to variables.
-/
namespace ModuleScope

structure Environment where
  entries : List (String × String) := []
deriving DecidableEq, Repr

namespace Environment

def get? (environment : Environment) (name : String) : Option String :=
  environment.entries.lookup name

def contains (environment : Environment) (name : String) : Bool := (environment.get? name).isSome

def erase (environment : Environment) (name : String) : Environment :=
  ⟨environment.entries.filter fun entry => entry.1 != name⟩

def set (environment : Environment) (name value : String) : Environment :=
  ⟨(name, value) :: (environment.erase name).entries⟩

end Environment

namespace Dotenv

open Text

/-- A line of the file: without a key it is blank or a comment, and without a value it sets nothing. -/
structure Binding where
  key : Option String
  value : Option String
deriving DecidableEq, Repr

def isInlineBlank (c : Char) : Bool := isBlank c && c != '\n' && c != '\r'

def nextLine (text : List Char) : List Char := (text.dropWhile (· != '\n')).drop 1

def dropExport (text : List Char) : List Char :=
  match text with
  | 'e' :: 'x' :: 'p' :: 'o' :: 'r' :: 't' :: c :: rest =>
    if isInlineBlank c then rest.dropWhile isInlineBlank else text
  | text => text

/-- A key, plain or in single quotation marks, and the text after it. Fails with the text at which
it stopped. -/
def key (text : List Char) : Except (List Char) (Option String × List Char) :=
  match text with
  | '#' :: _ => .ok (none, text)
  | '\x27' :: rest =>
    let name := rest.takeWhile (· != '\x27')
    match name, rest.drop name.length with
    | _ :: _, '\x27' :: after => .ok (some (String.ofList name), after)
    | _, _ => .error text
  | text =>
    let name := text.takeWhile fun c => c != '=' && c != '#' && !isBlank c
    if name.isEmpty then .error text
    else .ok (some (String.ofList name), text.drop name.length)

/-- The text up to a quotation mark and the text after it. A mark after a backslash closes only if no
later one does. -/
def upToMark (mark : Char) : List Char → Option (List Char × List Char)
  | [] => none
  | [c] => if c == mark then some ([], []) else none
  | c :: next :: rest =>
    if c == mark then some ([], next :: rest)
    else if c == '\\' && next == mark then
      match upToMark mark rest with
      | some (body, after) => some (c :: next :: body, after)
      | none => some ([c], rest)
    else (upToMark mark (next :: rest)).map fun (body, after) => (c :: body, after)

abbrev Escapes := List (Char × Char)

def singleEscapes : Escapes := [('\\', '\\'), ('\x27', '\x27')]

def doubleEscapes : Escapes :=
  [('\\', '\\'), ('\x27', '\x27'), ('\x22', '\x22'), ('a', '\x07'), ('b', '\x08'), ('f', '\x0c'),
   ('n', '\n'), ('r', '\r'), ('t', '\t'), ('v', '\x0b')]

/-- Replaces escapes; a backslash before anything else stays. -/
def unescape (escapes : Escapes) : List Char → List Char
  | [] => []
  | [c] => [c]
  | c :: next :: rest =>
    match if c == '\\' then escapes.lookup next else none with
    | some meaning => meaning :: unescape escapes rest
    | none => c :: unescape escapes (next :: rest)

/-- A line up to a comment, which begins after a blank. -/
def beforeComment : List Char → List Char
  | [] => []
  | c :: rest =>
    if isBlank c && (rest.dropWhile isBlank).head? == some '#' then [] else c :: beforeComment rest

def quotedValue (mark : Char) (escapes : Escapes) (text rest : List Char) :
    Except (List Char) (String × List Char) :=
  match upToMark mark rest with
  | some (body, after) => .ok (String.ofList (unescape escapes body), after)
  | none => .error text

def value (text : List Char) : Except (List Char) (String × List Char) :=
  match text with
  | '\x27' :: rest => quotedValue '\x27' singleEscapes text rest
  | '\x22' :: rest => quotedValue '\x22' doubleEscapes text rest
  | text =>
    let line := text.takeWhile (· != '\n')
    .ok (String.ofList (trimEnd isBlank (beforeComment line)), text.drop line.length)

/-- The value after an equals sign. After blanks, a comment may follow at once. -/
def assigned (text : List Char) : Except (List Char) (String × List Char) :=
  let rest := text.dropWhile isInlineBlank
  if rest.length < text.length && rest.head? == some '#' then .ok ("", rest) else value rest

def lineEnd (text : List Char) : Except (List Char) (List Char) :=
  let rest := text.dropWhile isInlineBlank
  let rest := if rest.head? == some '#' then rest.dropWhile (· != '\n') else rest
  match rest with
  | [] => .ok []
  | '\n' :: after => .ok after
  | rest => .error rest

def binding (text : List Char) : Except (List Char) (Binding × List Char) := do
  let text := text.dropWhile isBlank
  if text.isEmpty then return (⟨none, none⟩, [])
  let (key, text) ← key (dropExport text)
  match text.dropWhile isInlineBlank with
  | '=' :: rest =>
    let (value, text) ← assigned rest
    let text ← lineEnd text
    return (⟨key, some value⟩, text)
  | text =>
    let text ← lineEnd text
    return (⟨key, none⟩, text)

/-- The bindings of a file. What is none is passed over up to the end of the line. -/
def bindings (text : List Char) : List Binding :=
  let (found, rest) := match binding text with
    | .ok (found, rest) => ([found], rest)
    | .error rest => ([], nextLine rest)
  if rest.length < text.length then found ++ bindings rest else found
termination_by text.length

inductive Part where
  | literal (c : Char)
  | reference (name : String) (otherwise : Option String)
deriving DecidableEq, Repr

def reference? (text : List Char) : Option (Part × Nat) :=
  let name := text.takeWhile fun c => c != '\x7d' && c != ':'
  match text.drop name.length with
  | '\x7d' :: _ => some (.reference (String.ofList name) none, name.length + 1)
  | ':' :: '-' :: rest =>
    let otherwise := rest.takeWhile (· != '\x7d')
    match rest.drop otherwise.length with
    | '\x7d' :: _ =>
      some (.reference (String.ofList name) (some (String.ofList otherwise)),
        name.length + otherwise.length + 3)
    | _ => none
  | _ => none

/-- The parts of a value; `skip` characters belong to the reference before. -/
def partsFrom (skip : Nat) : List Char → List Part
  | [] => []
  | c :: rest =>
    match skip with
    | skip + 1 => partsFrom skip rest
    | 0 =>
      let found := match c, rest with
        | '$', '\x7b' :: after => reference? after
        | _, _ => none
      match found with
      | some (part, length) => part :: partsFrom (length + 1) rest
      | none => .literal c :: partsFrom 0 rest

def Binding.names (binding : Binding) : List String :=
  binding.key.toList ++ (partsFrom 0 (binding.value.getD "").toList).filterMap fun
    | .literal _ => none
    | .reference name _ => some name

abbrev Values := List (String × Option String)

/-- What a part stands for: variables of the environment come first, then earlier bindings. -/
def Part.resolve (environment : Environment) (values : Values) : Part → String
  | .literal c => String.ofList [c]
  | .reference name otherwise =>
    match environment.get? name with
    | some value => value
    | none =>
      match values.lookup name with
      | some value => value.getD ""
      | none => otherwise.getD ""

def resolve (environment : Environment) (values : Values) (value : String) : String :=
  String.join ((partsFrom 0 value.toList).map (Part.resolve environment values))

def Values.bind (values : Values) (name : String) (value : Option String) : Values :=
  if values.any fun entry => entry.1 == name then
    values.map fun entry => if entry.1 == name then (name, value) else entry
  else values ++ [(name, value)]

/-- The values of bindings; the last binding of a name counts. -/
def values (environment : Environment) (bindings : List Binding) : Values :=
  bindings.foldl (fun found binding =>
    match binding.key with
    | some name => Values.bind found name (binding.value.map (resolve environment found))
    | none => found) []

inductive Fault where
  | nullCharacter
  | illegalName
deriving DecidableEq, Repr

namespace Fault

def message : Fault → String
  | nullCharacter => "embedded null byte"
  | illegalName => "illegal environment variable name"

end Fault

def fault? (name value : String) : Option Fault :=
  if name.toList.contains '\x00' || value.toList.contains '\x00' then some .nullCharacter
  else if name.toList.contains '=' then some .illegalName
  else none

/-- Sets the variables that are not set yet, until one cannot be. -/
def apply (environment : Environment) : Values → Environment × Except Fault Unit
  | [] => (environment, .ok ())
  | (name, value) :: rest =>
    match value with
    | none => apply environment rest
    | some value =>
      if environment.contains name then apply environment rest
      else match fault? name value with
        | some fault => (environment, .error fault)
        | none => apply (environment.set name value) rest

end Dotenv

end ModuleScope
