import ModuleScope.Document
import ModuleScope.FileSystem.Pattern
import ModuleScope.ModuleGraph

/-!
A tree of files and directories, and the host that a directory of it makes.
-/
namespace ModuleScope

inductive Entry where
  | file (bytes : List UInt8)
  | directory
deriving DecidableEq, Repr

namespace Entry

def isFile : Entry → Bool
  | file _ => true
  | directory => false

end Entry

/-- Entries under the names that lead to them, no two under the same, and the working directory. Whatever
holds an entry is a directory, and so is the top. -/
structure FileSystem where
  working : Path
  entries : List (List String × Entry)
  named : ∀ entry ∈ entries, ∀ part ∈ entry.1, Path.isName part = true := by simp
  distinct : (entries.map Prod.fst).Nodup := by simp

namespace FileSystem

def empty (working : Path) : FileSystem := { working, entries := [] }

def entryAt? (files : FileSystem) (parts : List String) : Option Entry :=
  match files.entries.lookup parts with
  | some entry => some entry
  | none =>
    if parts.isEmpty || files.entries.any fun entry => parts.isPrefixOf entry.1 then
      some .directory
    else none

def isDirectory (files : FileSystem) (path : Path) : Bool :=
  files.entryAt? path.parts == some .directory

def isFile (files : FileSystem) (path : Path) : Bool :=
  ((files.entryAt? path.parts).map Entry.isFile).getD false

def resolve (files : FileSystem) (path : String) : Path := files.working.resolve (Path.ofString path)

theorem not_mem_of_entryAt?_eq_none {files : FileSystem} {parts : List String}
    (nowhere : files.entryAt? parts = none) : parts ∉ files.entries.map Prod.fst := by
  intro member
  obtain ⟨entry, held, rfl⟩ := List.mem_map.mp member
  unfold entryAt? at nowhere
  split at nowhere
  · cases nowhere
  · next absent => exact absurd rfl (bne_iff_ne.mp (List.lookup_eq_none_iff.mp absent entry held))

def missingAbove (files : FileSystem) (path : Path) : List (List String) :=
  (path.parent.selfAndParents.map fun each => each.parts).filter fun parts =>
    (files.entryAt? parts).isNone

theorem of_mem_missingAbove {files : FileSystem} {path : Path} {parts : List String}
    (member : parts ∈ files.missingAbove path) :
    parts <+: path.parts ∧ parts ≠ path.parts ∧ parts ∉ files.entries.map Prod.fst := by
  obtain ⟨listed, absent⟩ := List.mem_filter.mp member
  have nowhere := Option.isNone_iff_eq_none.mp absent
  obtain ⟨above, held, rfl⟩ := List.mem_map.mp listed
  have beginning : above.parts <+: path.parts.dropLast := Path.isPrefix_of_mem_selfAndParents held
  refine ⟨beginning.trans (List.dropLast_prefix _), fun same => ?_,
    not_mem_of_entryAt?_eq_none nowhere⟩
  -- only the top is its own parent, and it leads somewhere
  have shorter := beginning.length_le
  rw [same, List.length_dropLast] at shorter
  have top : above.parts = [] := by
    rw [same]
    exact List.eq_nil_of_length_eq_zero (by omega)
  rw [top] at nowhere
  unfold entryAt? at nowhere
  split at nowhere
  · cases nowhere
  · simp at nowhere

def entriesWith (files : FileSystem) (path : Path) (entry : Entry) : List (List String × Entry) :=
  (files.entries.filter fun each => each.1 != path.parts) ++
    (files.missingAbove path).map (fun parts => (parts, .directory)) ++ [(path.parts, entry)]

section Insertion

variable (files : FileSystem) (path : Path) (entry : Entry)

theorem entriesWith_named (names : ∀ part ∈ path.parts, Path.isName part = true) :
    ∀ each ∈ files.entriesWith path entry, ∀ part ∈ each.1, Path.isName part = true := by
  intro each member part inside
  simp only [entriesWith, List.mem_append, List.mem_map, List.mem_singleton] at member
  rcases member with (old | ⟨parts, above, rfl⟩) | rfl
  · exact files.named each (List.mem_filter.mp old).1 part inside
  · exact names part ((of_mem_missingAbove above).1.subset inside)
  · exact names part inside

theorem entriesWith_distinct : ((files.entriesWith path entry).map Prod.fst).Nodup := by
  have others : List.Sublist
      ((files.entries.filter fun each => each.1 != path.parts).map Prod.fst)
      (files.entries.map Prod.fst) := List.filter_sublist.map Prod.fst
  have above : ((files.missingAbove path).map fun parts => (parts, Entry.directory)).map Prod.fst =
      files.missingAbove path := by
    rw [List.map_map]
    exact List.map_id _
  rw [entriesWith, List.map_append, List.map_append, above, List.nodup_append, List.nodup_append]
  refine ⟨⟨files.distinct.sublist others, (Path.selfAndParents_nodup _).sublist List.filter_sublist, ?_⟩,
    by simp, ?_⟩
  · rintro parts old _ missing rfl
    exact (of_mem_missingAbove missing).2.2 (others.subset old)
  · intro parts before last held same
    obtain rfl : last = path.parts := by simpa using held
    subst same
    rcases List.mem_append.mp before with old | missing
    · obtain ⟨each, held, same⟩ := List.mem_map.mp old
      simpa [same] using (List.mem_filter.mp held).2
    · exact (of_mem_missingAbove missing).2.1 rfl

end Insertion

/-- Puts an entry at a path; the directories above it come to exist. Nothing is put where a component is no
name. -/
def insert (files : FileSystem) (path : Path) (entry : Entry) : FileSystem :=
  if names : ∀ part ∈ path.parts, Path.isName part = true then
    { working := files.working
      entries := files.entriesWith path entry
      named := files.entriesWith_named path entry names
      distinct := files.entriesWith_distinct path entry }
  else files

def erase (files : FileSystem) (path : Path) : FileSystem where
  working := files.working
  entries := files.entries.filter fun each => each.1 != path.parts
  named entry member := files.named entry (List.mem_filter.mp member).1
  distinct := files.distinct.sublist (List.filter_sublist.map Prod.fst)

def follow (files : FileSystem) (shown : String) (reached : List String) :
    List String → Except Failure Entry
  | [] => match files.entryAt? reached with
    | some entry => .ok entry
    | none => .error (.notFound shown)
  | part :: rest =>
    match files.entryAt? reached with
    | none => .error (.notFound shown)
    | some (.file _) => .error (.notDirectory shown)
    | some .directory =>
      let next :=
        if part == ".." then reached.dropLast
        else if part == "" || part == "." then reached
        else reached ++ [part]
      files.follow shown next rest

def entry (files : FileSystem) (path : String) : Except Failure Entry :=
  let path := Path.ofString path
  files.follow path.toString [] (files.working.join path).parts

/-- What a path leads to when every component of its text counts, so that one which ends with a slash
has to be a directory. -/
def entryAsWritten? (files : FileSystem) (path : String) : Option Entry :=
  let parts := (splitAt (· == '/') path.toList).map String.ofList
  let start := if path.toList.head? == some '/' then [] else files.working.parts
  if path == "" then none else (files.follow path start parts).toOption

def read (files : FileSystem) (path : String) : Except Failure (List UInt8) :=
  match files.entry path with
  | .ok (.file bytes) => .ok bytes
  | .ok .directory => .error (.isDirectory (Path.ofString path).toString)
  | .error failure => .error failure

def openDocument (files : FileSystem) (path : String) : Except Failure Document := do
  let bytes ← files.read path
  match Text.Utf8.decode bytes with
  | .ok text => return Document.ofText path (String.ofList text)
  | .error fault => .error (.undecodable fault)

/-- The sorted paths of the files below a directory that match a pattern, without those in excluded
directories below it. -/
def filesBelow (files : FileSystem) (base : Path) (patterns : List String) : List String :=
  if files.isDirectory base then
    sortedDistinct (files.entries.filterMap fun (parts, entry) =>
      if entry.isFile && base.parts.isPrefixOf parts then
        let relative := parts.drop base.parts.length
        if matchesAny patterns relative && !anyExcluded relative then
          some (Path.toString ⟨1, parts⟩)
        else none
      else none)
  else []

end FileSystem

structure Workspace where
  files : FileSystem
  root : Path

structure RootNotDirectory where
  root : String
deriving DecidableEq, Repr

def RootNotDirectory.message (fault : RootNotDirectory) : String :=
  s!"Workspace root is not a directory: {fault.root}"

namespace Workspace

def at? (files : FileSystem) (root : String) : Except RootNotDirectory Workspace :=
  let path := files.resolve root
  if files.isDirectory path then .ok ⟨files, path⟩ else .error ⟨root⟩

def findFiles (workspace : Workspace) (patterns : List String) (base : Option String) : List String :=
  let start := match base.filter (· != "") with
    | some base => workspace.files.resolve base
    | none => workspace.root
  workspace.files.filesBelow start patterns

def host (workspace : Workspace) : Host where
  openDocument := workspace.files.openDocument
  findFiles patterns base := .ok (workspace.findFiles patterns base)

end Workspace

def projectMarkers : List String := ["package.json", "tsconfig.json"]

/-- The nearest directory at or above a path that holds a marker, or else the path itself. -/
def FileSystem.projectRoot (files : FileSystem) (start : Path) : Path :=
  let start := files.working.resolve start
  (start.selfAndParents.find? fun candidate =>
    projectMarkers.any fun marker => files.isFile ⟨1, candidate.parts ++ [marker]⟩).getD start

end ModuleScope
