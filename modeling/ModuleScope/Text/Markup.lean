import ModuleScope.Text.Basic

/-!
Text with style tags in brackets. A tag begins with a lower-case letter or one of `#`, `/` and `@`;
backslashes before it escape it, and half of them are written.
-/
namespace ModuleScope.Text

def isTagStart (c : Char) : Bool :=
  ('a' ≤ c && c ≤ 'z') || c == '#' || c == '/' || c == '@'

/-- The characters up to a closing bracket, if no opening one comes first. -/
def upToBracket : List Char → Option (List Char)
  | [] => none
  | c :: rest =>
    if c == ']' then some []
    else if c == '[' then none
    else (upToBracket rest).map fun body => c :: body

def tagBody? : List Char → Option (List Char)
  | [] => none
  | c :: rest => if isTagStart c then (upToBracket rest).map fun body => c :: body else none

inductive MarkupPiece where
  | literal (c : Char)
  | tag (backslashes : Nat) (body : List Char)
deriving DecidableEq, Repr

/-- The pieces of a text; `skip` characters belong to the tag before, and `backslashes` of them have
been read but not placed. -/
def markupPiecesFrom (skip backslashes : Nat) : List Char → List MarkupPiece
  | [] => List.replicate backslashes (.literal '\\')
  | c :: rest =>
    match skip with
    | skip + 1 => markupPiecesFrom skip 0 rest
    | 0 =>
      if c == '\\' then markupPiecesFrom 0 (backslashes + 1) rest
      else
        match if c == '[' then tagBody? rest else none with
        | some body => .tag backslashes body :: markupPiecesFrom (body.length + 1) 0 rest
        | none =>
          List.replicate backslashes (.literal '\\') ++ .literal c :: markupPiecesFrom 0 0 rest

def markupPieces (text : List Char) : List MarkupPiece := markupPiecesFrom 0 0 text

namespace MarkupPiece

def written : MarkupPiece → List Char
  | literal c => [c]
  | tag backslashes body => List.replicate backslashes '\\' ++ '[' :: body ++ [']']

def escaped : MarkupPiece → List Char
  | literal c => [c]
  | tag backslashes body => List.replicate (2 * backslashes + 1) '\\' ++ '[' :: body ++ [']']

end MarkupPiece

def closeBackslash (text : List Char) : List Char :=
  match text.reverse with
  | '\\' :: '\\' :: _ => text
  | '\\' :: _ => text ++ ['\\']
  | _ => text

def escape (text : String) : String :=
  String.ofList (closeBackslash ((markupPieces text.toList).flatMap MarkupPiece.escaped))

inductive MarkupError where
  | unmatched (tag : String) (position : Nat)
  | nothingOpen (position : Nat)
  | malformed (complaint : String)
deriving DecidableEq, Repr

namespace MarkupError

def message : MarkupError → String
  | unmatched tag position =>
    s!"closing tag '{tag}' at position {position} doesn't match any open tag"
  | nothingOpen position => s!"closing tag '[/]' at position {position} has nothing to close"
  | malformed complaint => complaint

end MarkupError

/-- How tags are understood: the normal form of a style, by which a tag is closed, and what is wrong
with the parameters of a handler. -/
structure TagRules where
  normalForm : List Char → Except MarkupError String
  complaint? : String → Option String

structure OpenTag where
  name : String
  parameters : String
deriving DecidableEq, Repr

/-- Closing a handler is when its parameters are read. -/
def OpenTag.close (rules : TagRules) (tag : OpenTag) : Except MarkupError Unit :=
  if tag.name.toList.head? == some '@' && tag.parameters != "" then
    match rules.complaint? tag.parameters with
    | some complaint => .error (.malformed complaint)
    | none => .ok ()
  else .ok ()

/-- The tags still open after a tag, the last opened first. What follows an equals sign is not part of
its name. -/
def applyTag (rules : TagRules) (position : Nat) (body : List Char) (opened : List OpenTag) :
    Except MarkupError (List OpenTag) :=
  match body.takeWhile (· != '=') with
  | '/' :: rest =>
    let style := trimBoth isBlank rest
    if style.isEmpty then
      match opened with
      | tag :: below => (tag.close rules).map fun _ => below
      | [] => .error (.nothingOpen position)
    else
      (rules.normalForm style).bind fun name =>
        match opened.find? (·.name == name) with
        | some tag => (tag.close rules).map fun _ => opened.eraseP (·.name == name)
        | none => .error (.unmatched (String.ofList ('[' :: body ++ [']'])) position)
  | style =>
    (rules.normalForm style).map fun name =>
      ⟨name, String.ofList ((body.dropWhile (· != '=')).drop 1)⟩ :: opened

/-- The text that pieces show. A backslash before a bracket that begins no tag vanishes; `position`
characters come before. -/
def renderPieces (rules : TagRules) (position : Nat) (opened : List OpenTag) :
    List MarkupPiece → Except MarkupError (List Char)
  | [] => .ok []
  | .literal c :: rest => do
    let shown ← renderPieces rules (position + 1) opened rest
    match c, rest with
    | '\\', .literal '[' :: _ => return shown
    | c, _ => return c :: shown
  | .tag backslashes body :: rest => do
    let next := position + backslashes + body.length + 2
    let slashes := List.replicate (backslashes / 2) '\\'
    if backslashes % 2 == 1 then
      let shown ← renderPieces rules next opened rest
      return slashes ++ '[' :: body ++ ']' :: shown
    else
      let opened ← applyTag rules (position + backslashes) body opened
      let shown ← renderPieces rules next opened rest
      return slashes ++ shown

def isControl (c : Char) : Bool := [7, 8, 11, 12, 13].contains c.toNat

def dropControls (text : List Char) : List Char := text.filter fun c => !isControl c

def renderBy (rules : TagRules) (markup : String) : Except MarkupError String :=
  (renderPieces rules 0 [] (markupPieces markup.toList)).map fun shown => String.ofList (dropControls shown)

def icons : List (Char × String) :=
  [('🔷', "[C]"), ('🔹', "[m]"), ('🔸', "[f]"), ('⚡', "[fn]"), ('💉', "[I]"), ('🎮', "[Ctl]"),
   ('📦', "[Mod]"), ('•', "*"), ('📄', "[file]"), ('📋', "[list]"), ('🔍', "[search]"),
   ('👀', "[watch]"), ('✓', "[OK]"), ('✗', "[FAIL]"), ('⚠', "[WARN]"), ('→', "->"), ('←', "<-"),
   ('—', "-"), ('…', "...")]

def escapeBrackets (text : List Char) : List Char :=
  text.flatMap fun c => if c == '[' then ['\\', '['] else [c]

/-- The plain form of a character; in markup its brackets are escaped. -/
def plainForm (markup : Bool) (c : Char) : List Char :=
  match icons.lookup c with
  | some form => if markup then escapeBrackets form.toList else form.toList
  | none => [c]

def stripIcons (markup : Bool) (text : String) : String :=
  String.ofList (text.toList.flatMap (plainForm markup))

end ModuleScope.Text
