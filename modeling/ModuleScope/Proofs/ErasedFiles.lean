import Mathlib
import ModuleScope.Proofs.FileListing

/-!
File systems after files have been erased. A directory on the way to a file that is still there is still
there too; so a workspace from which files are erased lists the other ones, and opens each of them as
before.
-/
namespace ModuleScope

namespace FileSystem

variable {files : FileSystem}

def eraseAll (files : FileSystem) (paths : List String) : FileSystem :=
  paths.foldl (fun files path => files.erase (.ofString path)) files

theorem mem_eraseAll {paths : List String} {each : List String × Entry} :
    each ∈ (files.eraseAll paths).entries ↔
      each ∈ files.entries ∧ ∀ path ∈ paths, each.1 ≠ (Path.ofString path).parts := by
  induction paths generalizing files with
  | nil => simp [eraseAll]
  | cons path rest ih =>
    change each ∈ ((files.erase (.ofString path)).eraseAll rest).entries ↔ _
    rw [ih, erase, List.mem_filter, bne_iff_ne, List.forall_mem_cons, and_assoc]

theorem directory_eraseAll {paths parts front : List String}
    {entry : Entry} (kept : (parts, entry) ∈ (files.eraseAll paths).entries) (above : front <+: parts)
    (directory : files.entryAt? front = some .directory) :
    (files.eraseAll paths).entryAt? front = some .directory := by
  rw [entryAt?]
  split
  · next found held =>
    -- What is held under its own name was held there before.
    have inside := (lookup_eq_some_iff_mem (files.eraseAll paths).distinct).mp held
    rw [← directory, entryAt?_of_mem (mem_eraseAll.mp inside).1]
  · have below : (files.eraseAll paths).entries.any (fun each => front.isPrefixOf each.1) = true :=
      List.any_eq_true.mpr ⟨_, kept, List.isPrefixOf_iff_prefix.mpr above⟩
    rw [below, Bool.or_true, if_pos rfl]

theorem follow_of_directories {shown : String} {reached rest : List String} {entry : Entry}
    (names : ∀ part ∈ rest, Path.isName part = true)
    (directories : ∀ front next more, rest = front ++ next :: more →
      files.entryAt? (reached ++ front) = some .directory)
    (last : files.entryAt? (reached ++ rest) = some entry) :
    files.follow shown reached rest = .ok entry := by
  induction rest generalizing reached with
  | nil =>
    rw [List.append_nil] at last
    rw [follow, last]
  | cons part rest ih =>
    have here := directories [] part rest rfl
    rw [List.append_nil] at here
    rw [follow, here]
    dsimp only
    rw [next_of_isName (names part (by simp))]
    apply ih
    · exact fun part member => names part (List.mem_cons_of_mem _ member)
    · intro front next more split
      have deeper := directories (part :: front) next more (by rw [split]; rfl)
      simpa using deeper
    · simpa using last

theorem entry_toString {parts : List String} (names : ∀ part ∈ parts, Path.isName part = true) :
    files.entry (Path.toString ⟨1, parts⟩) = files.follow (Path.toString ⟨1, parts⟩) [] parts := by
  rw [FileSystem.entry, Path.ofString_toString names]
  rfl

/-- A file that is not erased is opened as before, if it could be opened. -/
theorem openDocument_eraseAll {paths parts : List String}
    {bytes : List UInt8} (kept : (parts, .file bytes) ∈ (files.eraseAll paths).entries)
    {document : Document} (opened : files.openDocument (Path.toString ⟨1, parts⟩) = .ok document) :
    (files.eraseAll paths).openDocument (Path.toString ⟨1, parts⟩) = .ok document := by
  have names := (files.eraseAll paths).named _ kept
  obtain ⟨_, entry, found⟩ := openDocument_ok opened
  rw [entry_toString names] at found
  have directories (front : List String) (next : String) (more : List String)
      (split : parts = front ++ next :: more) : files.entryAt? ([] ++ front) = some .directory := by
    rw [split] at found names
    exact entryAt?_of_follow (fun part member => names part (List.mem_append_left _ member)) found
  have before : files.follow (Path.toString ⟨1, parts⟩) [] parts = .ok (.file bytes) :=
    follow_of_directories names directories (entryAt?_of_mem (mem_eraseAll.mp kept).1)
  have after : (files.eraseAll paths).follow (Path.toString ⟨1, parts⟩) [] parts =
      .ok (.file bytes) := by
    refine follow_of_directories names ?_ (entryAt?_of_mem kept)
    intro front next more split
    exact directory_eraseAll kept ⟨next :: more, split.symm⟩ (directories _ _ _ split)
  rw [← opened]
  simp only [openDocument, read, entry_toString names, before, after]

end FileSystem

namespace Workspace

variable {workspace : Workspace}

def erasing (workspace : Workspace) (paths : List String) : Workspace :=
  { workspace with files := workspace.files.eraseAll paths }

/-- Of the listed files, those are listed after erasing that were not erased. -/
theorem findFiles_erasing (workspace : Workspace) (patterns : List String) (gone : String → Bool) :
    (workspace.erasing ((workspace.findFiles patterns none).filter gone)).findFiles patterns none =
      (workspace.findFiles patterns none).filter fun file => !gone file := by
  rw [findFiles_root, findFiles_root]
  set paths := (workspace.files.filesBelow workspace.root patterns).filter gone with erased
  change (workspace.files.eraseAll paths).filesBelow workspace.root patterns = _
  by_cases rooted : workspace.files.isDirectory workspace.root = true
  · have ordered := workspace.files.filesBelow_sorted workspace.root patterns
    have ordered' := (workspace.files.eraseAll paths).filesBelow_sorted workspace.root patterns
    refine eq_of_sorted ordered'.1 (ordered.1.filter _) ordered'.2 (ordered.2.filter _) fun file => ?_
    rw [List.mem_filter]
    constructor
    · intro listed
      obtain ⟨_, relative, bytes, kept, matched, inside, rfl⟩ := FileSystem.mem_filesBelow.mp listed
      obtain ⟨member, other⟩ := FileSystem.mem_eraseAll.mp kept
      have before := FileSystem.mem_filesBelow.mpr
        ⟨rooted, relative, bytes, member, matched, inside, rfl⟩
      refine ⟨before, ?_⟩
      rw [Bool.not_eq_true']
      by_contra lost
      have apart := other _ (List.mem_filter.mpr ⟨before, by simpa using lost⟩)
      rw [Path.ofString_toString (workspace.files.named _ member)] at apart
      exact apart rfl
    · rintro ⟨before, present⟩
      obtain ⟨_, relative, bytes, member, matched, inside, rfl⟩ := FileSystem.mem_filesBelow.mp before
      have kept : (workspace.root.parts ++ relative, Entry.file bytes) ∈
          (workspace.files.eraseAll paths).entries := by
        refine FileSystem.mem_eraseAll.mpr ⟨member, fun path lost same => ?_⟩
        obtain ⟨listed, went⟩ := List.mem_filter.mp lost
        obtain ⟨_, other, _, member', _, _, rfl⟩ := FileSystem.mem_filesBelow.mp listed
        rw [Path.ofString_toString (workspace.files.named _ member')] at same
        dsimp only at same
        rw [same, went] at present
        cases present
      have still : (workspace.files.eraseAll paths).isDirectory workspace.root = true := by
        rw [FileSystem.isDirectory, beq_iff_eq] at rooted ⊢
        exact FileSystem.directory_eraseAll kept (List.prefix_append ..) rooted
      exact FileSystem.mem_filesBelow.mpr ⟨still, relative, bytes, kept, matched, inside, rfl⟩
  · -- Nothing is listed, so nothing is erased.
    have nothing : workspace.files.filesBelow workspace.root patterns = [] := by
      rw [FileSystem.filesBelow, if_neg rooted]
    rw [nothing] at erased ⊢
    rw [erased]
    exact nothing

theorem openDocument_erasing {paths patterns : List String}
    {file : String} (listed : file ∈ (workspace.erasing paths).findFiles patterns none)
    {document : Document} (opened : workspace.host.openDocument file = .ok document) :
    (workspace.erasing paths).host.openDocument file = .ok document := by
  rw [findFiles_root] at listed
  obtain ⟨_, relative, bytes, kept, _, _, rfl⟩ := FileSystem.mem_filesBelow.mp listed
  exact FileSystem.openDocument_eraseAll kept opened

end Workspace

end ModuleScope
