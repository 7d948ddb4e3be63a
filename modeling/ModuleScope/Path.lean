/-!
Paths of a POSIX file system, as text and as components. Empty components and `.` vanish, `..` stays
until a path is resolved, and a path may have no root, one or (written with exactly two slashes) a
root of its own.
-/
namespace ModuleScope

def splitAt (separator : Char → Bool) : List Char → List (List Char)
  | [] => [[]]
  | c :: rest =>
    match splitAt separator rest with
    | [] => [[c]]
    | part :: parts => if separator c then [] :: part :: parts else (c :: part) :: parts

/-- A path: how many slashes its root has, and its components. -/
structure Path where
  root : Nat
  parts : List String
deriving DecidableEq, Repr

namespace Path

def isAbsolute (path : Path) : Bool := 0 < path.root

def isName (part : String) : Bool :=
  part != "" && part != "." && part != ".." && !part.toList.contains '/'

def components (text : String) : List String :=
  ((splitAt (· == '/') text.toList).map String.ofList).filter fun part => part != "" && part != "."

def ofString (text : String) : Path :=
  let slashes := (text.toList.takeWhile (· == '/')).length
  ⟨if slashes == 2 then 2 else min slashes 1, components text⟩

def toString (path : Path) : String :=
  if path.root == 0 && path.parts.isEmpty then "."
  else String.ofList (List.replicate path.root '/') ++ "/".intercalate path.parts

def name (path : Path) : String := path.parts.getLast?.getD ""

/-- Splits a name before its last dot, if the dot is neither its first nor its last character. -/
def splitName (name : String) : String × String :=
  let reversed := name.toList.reverse
  let extension := reversed.takeWhile (· != '.')
  match reversed.drop extension.length with
  | dot :: stem =>
    if extension.isEmpty || stem.isEmpty then (name, "")
    else (String.ofList stem.reverse, String.ofList (dot :: extension.reverse))
  | [] => (name, "")

def stem (path : Path) : String := (splitName path.name).1

def suffix (path : Path) : String := (splitName path.name).2

def parent (path : Path) : Path := { path with parts := path.parts.dropLast }

def selfAndParents (path : Path) : List Path :=
  (List.range (path.parts.length + 1)).map fun count =>
    { path with parts := path.parts.take (path.parts.length - count) }

theorem selfAndParents_nodup (path : Path) :
    (path.selfAndParents.map fun each => each.parts).Nodup := by
  rw [selfAndParents, List.map_map, List.Nodup, List.pairwise_map]
  refine List.pairwise_lt_range.imp_of_mem fun first second before same => ?_
  have lengths := congrArg List.length same
  simp only [Function.comp_apply, List.length_take, List.mem_range] at lengths first second
  omega

theorem isPrefix_of_mem_selfAndParents {path each : Path} (member : each ∈ path.selfAndParents) :
    each.parts <+: path.parts := by
  obtain ⟨count, _, rfl⟩ := List.mem_map.mp member
  exact List.take_prefix _ _

/-- Number of components, the root counted as one. -/
def depth (path : Path) : Nat := min path.root 1 + path.parts.length

def join (base path : Path) : Path :=
  if path.isAbsolute then path else { base with parts := base.parts ++ path.parts }

def relativeParts? (path base : Path) : Option (List String) :=
  if path.root == base.root && base.parts.isPrefixOf path.parts then
    some (path.parts.drop base.parts.length)
  else none

def normalize (parts : List String) : List String :=
  parts.foldl (fun kept part => if part == ".." then kept.dropLast else kept ++ [part]) []

def resolve (working path : Path) : Path :=
  let joined := working.join path
  ⟨1, normalize joined.parts⟩

end Path

/-- The directory part of a path's text: everything before its last slash, without the slashes at
its end unless it holds nothing else. -/
def directoryOf (path : String) : String :=
  let head := path.toList.reverse.dropWhile (· != '/')
  let trimmed := head.dropWhile (· == '/')
  String.ofList (if trimmed.isEmpty then head else trimmed.reverse)

/-- A path's text relative to a root, or the text itself if the path is not below it. -/
def relativeText (path : String) (root : Path) : String :=
  match (Path.ofString path).relativeParts? root with
  | some parts => Path.toString ⟨0, parts⟩
  | none => path

def excludedDirectories : List String := ["node_modules", "dist", "out", "build", ".git", "coverage"]

/-- Whether a directory among the given components is excluded; the last component is the file. -/
def anyExcluded (parts : List String) : Bool :=
  parts.dropLast.any fun part => excludedDirectories.contains part

def isExcludedPath (path : String) : Bool := anyExcluded (Path.ofString path).parts

def moduleFileEnding : String := ".module.ts"

def endsWith (text ending : String) : Bool := ending.toList.reverse.isPrefixOf text.toList.reverse

def isModuleFile (path : String) : Bool := endsWith path moduleFileEnding

end ModuleScope
