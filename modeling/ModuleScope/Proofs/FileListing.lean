import Mathlib
import ModuleScope.FileSystem.Basic
import ModuleScope.Proofs.Lookup
import ModuleScope.Proofs.Paths
import ModuleScope.Proofs.Patterns
import ModuleScope.Proofs.Sorting

/-!
What a workspace lists. The source files below the directory of a module file are those of the whole
workspace that lie in the directory: whether a directory is excluded may be judged from either place,
since a module file is found only where nothing above it is excluded.
-/
namespace ModuleScope

namespace FileSystem

variable {files : FileSystem}

theorem mem_filesBelow {base : Path} {patterns : List String} {file : String} :
    file ∈ files.filesBelow base patterns ↔
      files.isDirectory base = true ∧ ∃ relative bytes,
        (base.parts ++ relative, .file bytes) ∈ files.entries ∧
        matchesAny patterns relative = true ∧ anyExcluded relative = false ∧
        file = Path.toString ⟨1, base.parts ++ relative⟩ := by
  unfold filesBelow
  split
  · next directory =>
    rw [mem_sortedDistinct, List.mem_filterMap]
    constructor
    · rintro ⟨⟨parts, entry⟩, member, listed⟩
      dsimp only at listed
      split_ifs at listed with held wanted
      obtain ⟨isFile, below⟩ := Bool.and_eq_true_iff.mp held
      obtain ⟨relative, rfl⟩ := List.isPrefixOf_iff_prefix.mp below
      rw [List.drop_left] at wanted
      obtain ⟨matched, kept⟩ := Bool.and_eq_true_iff.mp wanted
      cases entry with
      | directory => cases isFile
      | file bytes =>
        exact ⟨directory, relative, bytes, member, matched, by simpa using kept,
          (Option.some.inj listed).symm⟩
    · rintro ⟨_, relative, bytes, member, matched, kept, rfl⟩
      refine ⟨(base.parts ++ relative, .file bytes), member, ?_⟩
      simp [Entry.isFile, matched, kept]
  · next other => simp [other]

theorem filesBelow_sorted (base : Path) (patterns : List String) :
    (files.filesBelow base patterns).Pairwise (· ≤ ·) ∧ (files.filesBelow base patterns).Nodup := by
  unfold filesBelow
  split
  · exact ⟨pairwise_sorted _, nodup_sortedDistinct _⟩
  · exact ⟨List.Pairwise.nil, List.nodup_nil⟩

theorem entryAt?_of_mem {parts : List String} {entry : Entry}
    (member : (parts, entry) ∈ files.entries) : files.entryAt? parts = some entry := by
  have found : files.entries.lookup parts = some entry :=
    (lookup_eq_some_iff_mem files.distinct).mpr member
  rw [entryAt?, found]

theorem relative_ne_nil {base : Path} {relative : List String} {bytes : List UInt8}
    (directory : files.isDirectory base = true)
    (member : (base.parts ++ relative, .file bytes) ∈ files.entries) : relative ≠ [] := by
  rintro rfl
  rw [List.append_nil] at member
  rw [isDirectory, entryAt?_of_mem member] at directory
  exact absurd directory (by simp)

theorem next_of_isName {part : String} (name : Path.isName part = true) (reached : List String) :
    (if part == ".." then reached.dropLast
      else if part == "" || part == "." then reached else reached ++ [part]) = reached ++ [part] := by
  simp [Path.ne_parent_of_isName name, Path.ne_empty_of_isName name, Path.ne_self_of_isName name]

theorem entryAt?_of_follow {shown : String} {reached front rest : List String} {next : String}
    {entry : Entry} (names : ∀ part ∈ front, Path.isName part = true)
    (found : files.follow shown reached (front ++ next :: rest) = .ok entry) :
    files.entryAt? (reached ++ front) = some .directory := by
  -- Each name in front leads one directory further down.
  induction front generalizing reached with
  | nil =>
    rw [List.nil_append, follow] at found
    rw [List.append_nil]
    split at found
    · cases found
    · cases found
    · next directory => exact directory
  | cons first front ih =>
    rw [List.cons_append, follow] at found
    split at found
    · cases found
    · cases found
    · dsimp only at found
      rw [next_of_isName (names first (by simp))] at found
      have inner := ih (fun part member => names part (List.mem_cons_of_mem first member)) found
      rwa [List.append_assoc] at inner

theorem entry_of_read {path : String} {bytes : List UInt8} (given : files.read path = .ok bytes) :
    files.entry path = .ok (.file bytes) := by
  unfold read at given
  split at given
  · next found =>
    cases given
    exact found
  · cases given
  · cases given

theorem read_of_openDocument {path : String} {document : Document}
    (opened : files.openDocument path = .ok document) :
    ∃ bytes text, files.read path = .ok bytes ∧ Text.Utf8.decode bytes = .ok text ∧
      document = .ofText path (String.ofList text) := by
  unfold openDocument at opened
  cases given : files.read path with
  | error failure =>
    rw [given] at opened
    cases opened
  | ok bytes =>
    rw [given] at opened
    simp only [bind, Except.bind, pure, Except.pure] at opened
    split at opened
    · next text decoded =>
      cases opened
      exact ⟨bytes, text, rfl, decoded, rfl⟩
    · cases opened

theorem openDocument_ok {path : String} {document : Document}
    (opened : files.openDocument path = .ok document) :
    document.path = path ∧ ∃ entry, files.entry path = .ok entry := by
  obtain ⟨bytes, text, given, _, rfl⟩ := read_of_openDocument opened
  exact ⟨rfl, _, entry_of_read given⟩

theorem exists_of_follow {shown : String} {reached rest : List String} {entry : Entry}
    (found : files.follow shown reached rest = .ok entry) :
    ∃ parts, files.entryAt? parts = some entry := by
  induction rest generalizing reached with
  | nil =>
    rw [follow] at found
    split at found
    · next held =>
      cases found
      exact ⟨reached, held⟩
    · cases found
  | cons part rest ih =>
    rw [follow] at found
    split at found
    · cases found
    · cases found
    · exact ih found

theorem mem_of_entryAt?_file {parts : List String} {bytes : List UInt8}
    (held : files.entryAt? parts = some (.file bytes)) : (parts, .file bytes) ∈ files.entries := by
  unfold entryAt? at held
  split at held
  · next looked =>
    cases held
    exact (lookup_eq_some_iff_mem files.distinct).mp looked
  · split at held <;> cases held

def texts (files : FileSystem) : List (List Char) :=
  files.entries.filterMap fun entry =>
    match entry.2 with
    | .file bytes => (Text.Utf8.decode bytes).toOption
    | .directory => none

theorem exists_text_of_openDocument {path : String} {document : Document}
    (opened : files.openDocument path = .ok document) :
    ∃ text ∈ files.texts, document = .ofText path (String.ofList text) := by
  obtain ⟨bytes, text, given, decoded, rfl⟩ := read_of_openDocument opened
  obtain ⟨parts, held⟩ := exists_of_follow (entry_of_read given)
  have kept : text ∈ files.texts :=
    List.mem_filterMap.mpr ⟨_, mem_of_entryAt?_file held, by simp [decoded, Except.toOption]⟩
  exact ⟨text, kept, rfl⟩

theorem isDirectory_of_openDocument {front : List String} {last : String} {document : Document}
    (names : ∀ part ∈ front ++ [last], Path.isName part = true)
    (opened : files.openDocument (Path.toString ⟨1, front ++ [last]⟩) = .ok document) :
    files.isDirectory ⟨1, front⟩ = true := by
  obtain ⟨_, entry, found⟩ := openDocument_ok opened
  rw [FileSystem.entry, Path.ofString_toString names] at found
  have held := entryAt?_of_follow (fun part member => names part (by simp [member])) found
  rw [List.nil_append] at held
  simp [isDirectory, held]

end FileSystem

theorem anyExcluded_concat (front : List String) (last : String) :
    anyExcluded (front ++ [last]) = front.any fun part => excludedDirectories.contains part := by
  rw [anyExcluded, List.dropLast_concat]

theorem matchesAny_nil_module : matchesAny modulePatterns [] = false := by decide +kernel

/-- Whether a file lies in a directory, component by component. -/
def liesIn (file directory : String) : Bool :=
  ((Path.ofString file).relativeParts? (Path.ofString directory)).isSome

theorem liesIn_toString {parts base : List String}
    (names : ∀ part ∈ parts, Path.isName part = true)
    (baseNames : ∀ part ∈ base, Path.isName part = true) :
    liesIn (Path.toString ⟨1, parts⟩) (Path.toString ⟨1, base⟩) = true ↔ base <+: parts := by
  rw [liesIn, Path.ofString_toString names, Path.ofString_toString baseNames, Path.relativeParts?]
  simp [List.isPrefixOf_iff_prefix]

namespace Workspace

variable {workspace : Workspace}

theorem findFiles_root (patterns : List String) :
    workspace.findFiles patterns none = workspace.files.filesBelow workspace.root patterns := rfl

theorem findFiles_directory (patterns : List String) {base : List String}
    (names : ∀ part ∈ base, Path.isName part = true) :
    workspace.findFiles patterns (some (Path.toString ⟨1, base⟩)) =
      workspace.files.filesBelow ⟨1, base⟩ patterns := by
  have written : Path.toString ⟨1, base⟩ ≠ "" := by
    intro empty
    have text := congrArg String.toList empty
    simp [Path.toString_absolute] at text
  simp only [findFiles, Option.filter_some, bne_iff_ne, ne_eq, written, not_false_eq_true, if_true]
  rw [FileSystem.resolve, Path.ofString_toString names, Path.resolve_absolute _ names]

/-- A file that is listed as a module file: it stands in a directory above which nothing is
excluded. -/
structure ModuleFileAt (workspace : Workspace) (file : String) (inner : List String) (last : String) :
    Prop where
  rooted : workspace.files.isDirectory workspace.root = true
  present : ∃ bytes, (workspace.root.parts ++ inner ++ [last], .file bytes) ∈ workspace.files.entries
  ending : ".module.ts".toList <:+ last.toList
  unexcluded : inner.any (fun part => excludedDirectories.contains part) = false
  text : file = Path.toString ⟨1, workspace.root.parts ++ inner ++ [last]⟩

theorem moduleFileAt_of_mem {file : String}
    (listed : file ∈ workspace.findFiles modulePatterns none) :
    ∃ inner last, workspace.ModuleFileAt file inner last := by
  rw [findFiles_root] at listed
  obtain ⟨rooted, relative, bytes, member, matched, kept, rfl⟩ := FileSystem.mem_filesBelow.mp listed
  rcases List.eq_nil_or_concat' relative with rfl | ⟨inner, last, rfl⟩
  · rw [matchesAny_nil_module] at matched
    cases matched
  · rw [anyExcluded_concat] at kept
    rw [← List.append_assoc] at member
    exact ⟨inner, last, rooted, ⟨bytes, member⟩, (matchesAny_module inner last).mp matched, kept,
      by rw [List.append_assoc]⟩

namespace ModuleFileAt

variable {file : String} {inner : List String} {last : String}

theorem names (place : workspace.ModuleFileAt file inner last) :
    ∀ part ∈ workspace.root.parts ++ inner ++ [last], Path.isName part = true := by
  obtain ⟨bytes, member⟩ := place.present
  exact workspace.files.named _ member

theorem directory_names (place : workspace.ModuleFileAt file inner last) :
    ∀ part ∈ workspace.root.parts ++ inner, Path.isName part = true :=
  fun part member => place.names part (List.mem_append_left _ member)

theorem directoryOf_eq (place : workspace.ModuleFileAt file inner last) :
    directoryOf file = Path.toString ⟨1, workspace.root.parts ++ inner⟩ := by
  rw [place.text]
  exact Path.directoryOf_toString place.directory_names
    (place.names last (by simp))

theorem listed (place : workspace.ModuleFileAt file inner last) :
    file ∈ workspace.findFiles sourcePatterns none ∧ liesIn file (directoryOf file) = true := by
  obtain ⟨bytes, member⟩ := place.present
  have source : ".ts".toList <:+ last.toList := by
    have shorter : ".ts".toList <:+ ".module.ts".toList := by decide
    exact shorter.trans place.ending
  constructor
  · rw [findFiles_root]
    refine FileSystem.mem_filesBelow.mpr ⟨place.rooted, inner ++ [last], bytes, ?_, ?_, ?_, ?_⟩
    · rwa [← List.append_assoc]
    · exact (matchesAny_source inner last).mpr (Or.inl source)
    · rw [anyExcluded_concat, place.unexcluded]
    · rw [← List.append_assoc]
      exact place.text
  · rw [place.directoryOf_eq, place.text,
      liesIn_toString place.names place.directory_names]
    exact ⟨[last], rfl⟩

/-- The source files below the directory of a module file that can be opened are those of the
workspace that lie in it. -/
theorem mem_findFiles_iff (place : workspace.ModuleFileAt file inner last)
    {document : Document}
    (opened : workspace.files.openDocument file = .ok document) (other : String) :
    other ∈ workspace.findFiles sourcePatterns (some (directoryOf file)) ↔
      other ∈ workspace.findFiles sourcePatterns none ∧
        liesIn other (directoryOf file) = true := by
  have baseNames := place.directory_names
  have directory : workspace.files.isDirectory ⟨1, workspace.root.parts ++ inner⟩ = true := by
    rw [place.text] at opened
    exact FileSystem.isDirectory_of_openDocument place.names opened
  -- Seen from the root, the directories on the way to the module are none of those excluded.
  have same (front : List String) (name : String) :
      (matchesAny sourcePatterns (front ++ [name]) = true ∧ anyExcluded (front ++ [name]) = false) ↔
        matchesAny sourcePatterns (inner ++ front ++ [name]) = true ∧
          anyExcluded (inner ++ front ++ [name]) = false := by
    rw [matchesAny_source, matchesAny_source, anyExcluded_concat, anyExcluded_concat, List.any_append,
      place.unexcluded, Bool.false_or]
  rw [place.directoryOf_eq, findFiles_directory sourcePatterns baseNames, findFiles_root,
    FileSystem.mem_filesBelow, FileSystem.mem_filesBelow]
  constructor
  · rintro ⟨_, relative, bytes, member, matched, kept, rfl⟩
    have inside := FileSystem.relative_ne_nil directory member
    obtain ⟨front, name, rfl⟩ := (List.eq_nil_or_concat' relative).resolve_left inside
    obtain ⟨matched, kept⟩ := (same front name).mp ⟨matched, kept⟩
    have names := workspace.files.named _ member
    refine ⟨⟨place.rooted, inner ++ front ++ [name], bytes, ?_, matched, kept, ?_⟩, ?_⟩
    · simpa only [List.append_assoc] using member
    · simp only [List.append_assoc]
    · exact (liesIn_toString names baseNames).mpr ⟨front ++ [name], rfl⟩
  · rintro ⟨⟨_, relative, bytes, member, matched, kept, rfl⟩, lies⟩
    obtain ⟨rest, split⟩ : workspace.root.parts ++ inner <+: workspace.root.parts ++ relative :=
      (liesIn_toString (workspace.files.named _ member) baseNames).mp lies
    rw [← split] at member ⊢
    have inside := FileSystem.relative_ne_nil directory member
    obtain ⟨front, name, rfl⟩ := (List.eq_nil_or_concat' rest).resolve_left inside
    have shape : relative = inner ++ front ++ [name] := by
      simpa only [List.append_assoc, List.append_cancel_left_eq, eq_comm] using split
    subst shape
    obtain ⟨matched, kept⟩ := (same front name).mpr ⟨matched, kept⟩
    exact ⟨directory, front ++ [name], bytes, member, matched, kept, rfl⟩

end ModuleFileAt

end Workspace

end ModuleScope
