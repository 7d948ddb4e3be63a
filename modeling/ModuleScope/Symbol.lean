import ModuleScope.Position
import ModuleScope.Text.Quoted

/-!
What queries answer with: definitions of symbols, their usages, and the modules of a project.
-/
namespace ModuleScope

inductive SymbolKind where
  | classType
  | method
  | field
  | function
  | injectable
  | controller
  | moduleClass
deriving DecidableEq, Repr

structure UnknownSymbolKind where
  label : String
deriving DecidableEq, Repr

def UnknownSymbolKind.message (fault : UnknownSymbolKind) : String :=
  s!"{Text.quoted fault.label} is not a valid SymbolKind"

namespace SymbolKind

def label : SymbolKind → String
  | classType => "class"
  | method => "method"
  | field => "field"
  | function => "function"
  | injectable => "injectable"
  | controller => "controller"
  | moduleClass => "module"

def icon : SymbolKind → String
  | classType => "🔷"
  | method => "🔹"
  | field => "🔸"
  | function => "⚡"
  | injectable => "💉"
  | controller => "🎮"
  | moduleClass => "📦"

def all : List SymbolKind :=
  [classType, method, field, function, injectable, controller, moduleClass]

def ofLabel (label : String) : Except UnknownSymbolKind SymbolKind :=
  match all.find? fun kind => kind.label == label with
  | some kind => .ok kind
  | none => .error ⟨label⟩

def ofDecorator? (name : String) : Option SymbolKind :=
  match name with
  | "Injectable" => some injectable
  | "Controller" => some controller
  | "Module" => some moduleClass
  | _ => none

end SymbolKind

/-- Where a symbol is declared. Members have the class or interface around them as container. -/
structure Definition where
  name : String
  file : String
  range : Range
  kind : SymbolKind
  container : Option String := none
deriving DecidableEq, Repr

structure Usage where
  file : String
  range : Range
  preview : String
  moduleName : Option String := none
deriving DecidableEq, Repr

namespace Usage

def line (usage : Usage) : Int := usage.range.start.line

end Usage

structure Module where
  name : String
  file : String
  imports : List String := []
  exported : List String := []
  providers : List String := []
  controllers : List String := []
deriving DecidableEq, Repr

namespace Module

def owns (self : Module) (className : String) : Bool :=
  self.providers.contains className || self.controllers.contains className

end Module

end ModuleScope
