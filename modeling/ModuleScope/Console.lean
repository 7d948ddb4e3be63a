import ModuleScope.Text.CellWidth
import ModuleScope.Text.Style

/-!
What is written to a terminal. Icons are replaced if the stream cannot show them.
-/
namespace ModuleScope

def localeEncoding : String := "utf-8"

def streamEncoding (declared : Option String) : String :=
  (declared.filter (· != "")).getD localeEncoding

/-- The name of an encoding in lower case with one underscore for each run of other characters than
letters, digits and dots, and none at the ends. -/
def encodingName (encoding : String) : String :=
  let kept (c : Char) : Bool := c.isAlphanum || c == '.'
  let lower := encoding.toList.map Char.toLower
  let step (name : List Char) (c : Char) : List Char :=
    if kept c then c :: name
    else match name with
      | '_' :: _ => name
      | name => '_' :: name
  String.ofList (Text.trimBoth (· == '_') (lower.foldl step []).reverse)

def supportsIcons (encoding : String) : Bool :=
  ["utf_8", "utf8", "u8", "utf", "utf8_ucs2", "utf8_ucs4", "cp65001"].contains (encodingName encoding)

structure Console where
  asciiOnly : Bool
deriving DecidableEq, Repr

inductive Spinner where
  | line
  | dots
deriving DecidableEq, Repr

namespace Spinner

def label : Spinner → String
  | line => "line"
  | dots => "dots"

end Spinner

/-- Puts blanks in place of tabulators, up to the next multiple of eight cells; `column` cells come
before on the line. -/
def expandTabs (column : Nat) : List Char → List Char
  | [] => []
  | '\n' :: rest => '\n' :: expandTabs 0 rest
  | '\t' :: rest =>
    let blanks := 8 - column % 8
    List.replicate blanks ' ' ++ expandTabs (column + blanks) rest
  | c :: rest => c :: expandTabs (column + Text.cellWidth c) rest

namespace Console

def ofEncoding (declared : Option String) : Console := ⟨!supportsIcons (streamEncoding declared)⟩

def safe (console : Console) (markup : Bool) (text : String) : String :=
  if console.asciiOnly then Text.stripIcons markup text else text

def shown (console : Console) (markup : Bool) (text : String) : Except Text.MarkupError (List Char) :=
  let text := console.safe markup text
  if markup then (Text.render text).map String.toList else .ok (Text.dropControls text.toList)

/-- What is written for texts: each is shown by itself, and they are joined. -/
def print (console : Console) (markup : Bool) (separator ending : String) (texts : List String) :
    Except Text.MarkupError String := do
  if texts.isEmpty then return "\n"
  let shown ← texts.mapM (console.shown markup)
  let joined := (Text.dropControls separator.toList).intercalate shown
  return String.ofList (expandTabs 0 joined) ++ ending

def echo (console : Console) (line : String) : String :=
  String.ofList (expandTabs 0 (Text.dropControls (console.safe false line).toList)) ++ "\n"

def status (console : Console) (text : String) : String × Spinner :=
  (console.safe true text, if console.asciiOnly then .line else .dots)

end Console

end ModuleScope
