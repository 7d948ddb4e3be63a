import ModuleScope.Path
import ModuleScope.Symbol
import ModuleScope.Text.LetterCase

/-!
The visibility graph of a project. An edge leads from a module to one that it imports, so the modules
that see a module's exports are the module itself and those that import it.
-/
namespace ModuleScope

def sorted (texts : List String) : List String := texts.mergeSort fun left right => left ≤ right

def sortedDistinct (texts : List String) : List String := sorted texts.eraseDups

/-- The name of the class that a file holds by convention: `user.service.ts` holds `UserService`. -/
def conventionalClassName (path : String) : String :=
  let parts := splitAt (fun c => c == '.' || c == '-' || c == '_') (Path.ofString path).stem.toList
  String.ofList (parts.flatMap Text.capitalize)

/-- Whether a directory is another or lies below it, judged by the texts of their paths. -/
def isWithin (directory ancestor : String) : Bool :=
  let stem := (ancestor.toList.reverse.dropWhile (· == '/')).reverse
  directory == ancestor || (stem ++ ['/']).isPrefixOf directory.toList

def Module.directory (self : Module) : String := directoryOf self.file

/-- Modules in the order in which they were declared. A name may be declared repeatedly; the last
declaration counts. -/
structure ModuleGraph where
  declared : List Module
deriving DecidableEq, Repr

namespace ModuleGraph

def names (graph : ModuleGraph) : List String := (graph.declared.map fun each => each.name).eraseDups

def size (graph : ModuleGraph) : Nat := graph.names.length

def contains (graph : ModuleGraph) (name : String) : Bool := graph.names.contains name

def module? (graph : ModuleGraph) (name : String) : Option Module :=
  graph.declared.reverse.find? fun each => each.name == name

def modules (graph : ModuleGraph) : List Module := graph.names.filterMap graph.module?

/-- Pairs of a module and one that it imports. Imports of undeclared names give none. -/
def edges (graph : ModuleGraph) : List (String × String) :=
  (graph.declared.flatMap fun each =>
    (each.imports.filter graph.contains).map fun imported => (each.name, imported)).eraseDups

def importersOf (graph : ModuleGraph) (name : String) : List String :=
  (graph.edges.filter fun edge => edge.2 == name).map fun edge => edge.1

def importsOf (graph : ModuleGraph) (name : String) : List String :=
  ((graph.module? name).map fun found => found.imports.eraseDups).getD []

def directoryOf? (graph : ModuleGraph) (name : String) : Option String :=
  (graph.module? name).map Module.directory

/-- The module itself and those that import it; importers of importers do not count. -/
def accessibleModules (graph : ModuleGraph) (name : String) : List String :=
  (name :: if graph.contains name then graph.importersOf name else []).eraseDups

def accessibleFiles (graph : ModuleGraph) (name : String) : List String :=
  ((graph.accessibleModules name).filterMap fun each =>
    (graph.module? each).map fun found => found.file).eraseDups

/-- Whether a module comes before another: the deeper directory first, then the smaller path. -/
def deeperFirst (left right : Module) : Bool :=
  let depth (each : Module) : Nat := (Path.ofString each.file).parent.depth
  depth right < depth left || (depth left == depth right && left.file ≤ right.file)

def byDepth (graph : ModuleGraph) : List Module := graph.declared.mergeSort deeperFirst

/-- The module that a file belongs to: the one that it declares; else the deepest one around it that
owns the class the file holds by convention; else the deepest one around it. -/
def moduleForFile? (graph : ModuleGraph) (file : String) : Option Module :=
  let around := graph.byDepth.filter fun each => isWithin (directoryOf file) each.directory
  ((graph.modules.find? fun each => each.file == file).or
    (around.find? fun each => each.owns (conventionalClassName file))).or around.head?

end ModuleGraph

end ModuleScope
