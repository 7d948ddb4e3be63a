import ModuleScope.Failure
import ModuleScope.Position
import ModuleScope.Text.Basic
import ModuleScope.Text.Utf8

/-!
Text documents addressed both by byte offset, as syntax trees do, and by line and character, as
callers do. Lines end at a line feed; carriage returns before one are not part of the line's text. A host
supplies documents and lists of files.
-/
namespace ModuleScope

/-- Starts of the lines after each line feed; `offset` bytes come before. -/
def lineStartsAfter (offset : Nat) : List UInt8 → List Nat
  | [] => []
  | byte :: rest =>
    if byte = 10 then (offset + 1) :: lineStartsAfter (offset + 1) rest
    else lineStartsAfter (offset + 1) rest

structure Document where
  path : String
  text : String
  source : List UInt8
  lineStarts : List Nat
  source_eq : source = Text.Utf8.encode text.toList
  lineStarts_eq : lineStarts = 0 :: lineStartsAfter 0 source

structure LineOutOfRange where
  line : Int
  path : String
deriving DecidableEq, Repr

def LineOutOfRange.message (fault : LineOutOfRange) : String :=
  s!"line {fault.line} out of range for {fault.path}"

namespace Document

def ofText (path text : String) : Document :=
  let source := Text.Utf8.encode text.toList
  { path, text, source, lineStarts := 0 :: lineStartsAfter 0 source, source_eq := rfl,
    lineStarts_eq := rfl }

def lineCount (document : Document) : Nat := document.lineStarts.length

def slice (document : Document) (start stop : Nat) : List UInt8 :=
  (document.source.drop start).take (stop - start)

def lineBytes (document : Document) (line : Nat) : List UInt8 :=
  let start := document.lineStarts.getD line 0
  let stop := match document.lineStarts[line + 1]? with
    | some next => next - 1
    | none => document.source.length
  document.slice start stop

/-- The characters of an existing line, without the carriage returns at its end. -/
def lineText (document : Document) (line : Nat) : List Char :=
  Text.trimEnd (· == '\r') (Text.Utf8.decodeLossy (document.lineBytes line))

def hasLine (document : Document) (line : Int) : Bool := 0 ≤ line && line < document.lineCount

def lineAt (document : Document) (line : Int) : Except LineOutOfRange String :=
  if document.hasLine line then .ok (String.ofList (document.lineText line.toNat))
  else .error ⟨line, document.path⟩

/-- The position of a byte offset, which is first moved into the document. -/
def positionAt (document : Document) (offset : Int) : Position :=
  let offset := (max 0 (min offset document.source.length)).toNat
  let line := document.lineStarts.countP (· ≤ offset) - 1
  let start := document.lineStarts.getD line 0
  ⟨line, (Text.Utf8.decodeLossy (document.slice start offset)).length⟩

/-- The byte offset of a position, which is first moved onto an existing line and into its text. -/
def offsetAt (document : Document) (position : Position) : Nat :=
  let line := (max 0 (min position.line (document.lineCount - 1))).toNat
  let text := document.lineText line
  let character := (max 0 (min position.character text.length)).toNat
  document.lineStarts.getD line 0 + (Text.Utf8.encode (text.take character)).length

def rangeOf (document : Document) (start stop : Int) : Range :=
  ⟨document.positionAt start, document.positionAt stop⟩

/-- The range of the word that a position touches; a position right after a word touches it. -/
def wordRangeAt (document : Document) (position : Position) : Option Range :=
  if document.hasLine position.line then
    ((Text.words (document.lineText position.line.toNat)).find? fun (start, stop) =>
      start ≤ position.character && position.character ≤ stop).map fun (start, stop) =>
        ⟨⟨position.line, start⟩, ⟨position.line, stop⟩⟩
  else none

def textOf (document : Document) (range : Range) : String :=
  String.ofList (Text.Utf8.decodeLossy
    (document.slice (document.offsetAt range.start) (document.offsetAt range.stop)))

end Document

def sourcePatterns : List String := ["**/*.ts", "**/*.tsx"]

def modulePatterns : List String := ["**/*.module.ts"]

/-- Supplies documents by path, and the sorted paths of files that match patterns below a base
directory or, without one, below the root of the workspace. -/
structure Host where
  openDocument : String → Except Failure Document
  findFiles : List String → Option String → Except Failure (List String)

end ModuleScope
