import ModuleScope.Path
import ModuleScope.Symbol
import ModuleScope.Text.Markup

/-!
The card that is shown for a symbol.
-/
namespace ModuleScope

/-- The first items of a list; a negative count leaves as many off at the end. -/
def takeSigned {α : Type} (count : Int) (items : List α) : List α :=
  items.take (if count < 0 then items.length - (-count).toNat else count.toNat)

def previewWidth : Int := 60

def truncate (text : String) (width : Int) : String :=
  if width < text.toList.length then String.ofList (takeSigned (width - 3) text.toList) ++ "..."
  else text

/-- A place in a file as it is shown, with lines counted from one. -/
def placeText (root : Path) (file : String) (line : Int) : String :=
  s!"{relativeText file root}:{line + 1}"

/-- The text of something that may be absent; an empty text counts as absent. -/
def present (text : Option String) : Option String := text.filter (· != "")

def noUsages : String := "[dim]No usages found in current module scope[/dim]"

namespace Hover

def definitionLines (root : Path) (symbol : String) (definition : Definition) : List String :=
  let place := match present definition.container with
    | some container => s!" in [cyan]{Text.escape container}[/cyan]"
    | none => ""
  [s!"{definition.kind.icon} [bold]{Text.escape symbol}[/bold]  [italic]{definition.kind.label}[/italic]{place}",
   s!"Definition: {Text.escape (relativeText definition.file root)}:{definition.range.start.line + 1}",
   ""]

def usageLine (root : Path) (usage : Usage) : String :=
  let place := placeText root usage.file usage.line
  let preview := truncate usage.preview previewWidth
  s!"  • {Text.escape place} — [dim]{Text.escape preview}[/dim]"

def usageLines (root : Path) (usages : List Usage) (moduleName : Option String) (limit : Int) :
    List String :=
  if usages.isEmpty then [noUsages]
  else
    let owner := (present moduleName).toList.map fun name => s!"Module: [magenta]{Text.escape name}[/magenta]"
    let rest :=
      if limit < usages.length then
        [s!"📋 Show all {usages.length} usages with: nest-scope usages --all"]
      else []
    owner ++ s!"Usages ({usages.length}):" :: (takeSigned limit usages).map (usageLine root) ++ rest

def lines (root : Path) (symbol : String) (definition : Option Definition) (usages : List Usage)
    (moduleName : Option String) (limit : Int) : List String :=
  (match definition with
    | some definition => definitionLines root symbol definition
    | none => []) ++ usageLines root usages moduleName limit

end Hover

end ModuleScope
