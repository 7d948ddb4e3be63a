import ModuleScope.Console

/-!
Tables and framed texts, laid out by the cells that their characters take.
-/
namespace ModuleScope

def repeated (text : String) (count : Nat) : String := String.join (List.replicate count text)

inductive Side where
  | left
  | right
deriving DecidableEq, Repr

def pad (side : Side) (width : Nat) (text : String) : String :=
  let blanks := repeated " " (width - Text.cells text)
  match side with
  | .left => text ++ blanks
  | .right => blanks ++ text

/-- Puts a text into the middle of a width; of an odd number of blanks the greater part follows. -/
def centre (width : Nat) (text : String) : String :=
  let excess := width - Text.cells text
  repeated " " (excess / 2) ++ text ++ repeated " " (excess - excess / 2)

structure Column where
  heading : String
  side : Side := .left
deriving DecidableEq, Repr

structure Table where
  title : String
  columns : List Column
  rows : List (List String)
deriving DecidableEq, Repr

namespace Table

def columnWidth (table : Table) (index : Nat) (column : Column) : Nat :=
  table.rows.foldl (fun width row => max width (Text.cells (row.getD index "")))
    (Text.cells column.heading)

def widths (table : Table) : List Nat :=
  table.columns.zipIdx.map fun (column, index) => table.columnWidth index column

def rule (widths : List Nat) (first dash between last : String) : String :=
  first ++ between.intercalate (widths.map fun width => repeated dash (width + 2)) ++ last

def cellLine (table : Table) (bar : String) (texts : List String) : String :=
  let cells := (table.columns.zip (table.widths.zip texts)).map fun (column, width, text) =>
    " " ++ pad column.side width text ++ " "
  bar ++ bar.intercalate cells ++ bar

def lines (table : Table) : List String :=
  let widths := table.widths
  let total := widths.foldl (fun total width => total + width + 3) 1
  [centre total table.title,
   rule widths "┏" "━" "┳" "┓",
   table.cellLine "┃" (table.columns.map fun column => column.heading),
   rule widths "┡" "━" "╇" "┩"] ++
  table.rows.map (table.cellLine "│") ++
  [rule widths "└" "─" "┴" "┘"]

end Table

def framed (title : String) (texts : List String) : List String :=
  let widest := texts.foldl (fun width text => max width (Text.cells text)) 0
  let width := max (widest + 2) (Text.cells title + 4)
  let label := s!" {title} "
  let dashes := width - Text.cells label
  let before := (dashes - 2) / 2 + 1
  let line (text : String) : String := "│ " ++ pad .left (width - 2) text ++ " │"
  ["╭" ++ repeated "─" before ++ label ++ repeated "─" (dashes - before) ++ "╮"] ++
  texts.map line ++
  ["╰" ++ repeated "─" width ++ "╯"]

end ModuleScope
