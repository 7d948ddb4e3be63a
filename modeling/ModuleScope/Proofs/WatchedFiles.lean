import Mathlib
import ModuleScope.Watcher
import ModuleScope.Proofs.FileListing

/-!
Which files of a workspace are watched. Whether a file is searched depends on the directories between
the root and the file, but whether it is watched depends on all directories of its path. The two agree
unless the root itself lies in an excluded directory: such a workspace is searched and never watched.
-/
namespace ModuleScope

theorem ChangeKind.ofLabel?_label (kind : ChangeKind) : ChangeKind.ofLabel? kind.label = some kind := by
  cases kind <;> rfl

namespace Watcher

theorem notifyLabelled_label (watcher : Watcher) (path : String) (kind : ChangeKind) :
    watcher.notifyLabelled path kind.label = .ok (watcher.notify ⟨path, kind⟩) := by
  rw [notifyLabelled, ChangeKind.ofLabel?_label]

theorem notify_unwatched (watcher : Watcher) {path : String} (kind : ChangeKind)
    (unwatched : isWatched path = false) : watcher.notify ⟨path, kind⟩ = watcher := by
  simp only [notify, unwatched, Bool.false_eq_true, if_false]

theorem mem_pending_notify (watcher : Watcher) {path : String} (kind : ChangeKind)
    (watched : isWatched path = true) :
    ⟨⟨path, kind⟩, watcher.now + watcher.debounce⟩ ∈ (watcher.notify ⟨path, kind⟩).pending := by
  simp only [notify, watched, if_true]
  exact List.mem_append_right _ (List.mem_singleton_self _)

end Watcher

theorem endsWith_toString {ending : String} (plain : '/' ∉ ending.toList) (front : List String)
    (last : String) :
    endsWith (Path.toString ⟨1, front ++ [last]⟩) ending = true ↔ ending.toList <:+ last.toList := by
  rw [endsWith, List.isPrefixOf_iff_prefix, List.reverse_prefix, Path.toList_toString_concat]
  have slash (before : List Char) : '/' :: last.toList <:+ before ++ '/' :: last.toList :=
    List.suffix_append _ _
  constructor
  · intro ends
    rcases List.suffix_or_suffix_of_suffix ends (slash _) with inside | longer
    · rcases List.suffix_cons_iff.mp inside with whole | shorter
      · exact absurd (by simp [whole]) plain
      · exact shorter
    · exact absurd (longer.subset (by simp)) plain
  · intro ends
    exact (ends.trans (List.suffix_cons _ _)).trans (slash _)

namespace Workspace

variable {workspace : Workspace}

/-- Whether a directory at or above the root is excluded. -/
def insideExcluded (workspace : Workspace) : Bool :=
  workspace.root.parts.any fun part => excludedDirectories.contains part

def HasSource (workspace : Workspace) (file : String) : Prop :=
  ∃ relative bytes, (workspace.root.parts ++ relative, Entry.file bytes) ∈ workspace.files.entries ∧
    file = Path.toString ⟨1, workspace.root.parts ++ relative⟩ ∧
    (endsWith file ".ts" || endsWith file ".tsx") = true

structure SourceAt (workspace : Workspace) (file : String) (inner : List String) (last : String) :
    Prop where
  present : ∃ bytes, (workspace.root.parts ++ (inner ++ [last]), .file bytes) ∈ workspace.files.entries
  text : file = Path.toString ⟨1, workspace.root.parts ++ (inner ++ [last])⟩
  ending : ".ts".toList <:+ last.toList ∨ ".tsx".toList <:+ last.toList

theorem HasSource.place {file : String} (source : workspace.HasSource file)
    (rooted : workspace.files.isDirectory workspace.root = true) :
    ∃ inner last, workspace.SourceAt file inner last := by
  obtain ⟨relative, bytes, member, rfl, ending⟩ := source
  have below := FileSystem.relative_ne_nil rooted member
  obtain ⟨inner, last, rfl⟩ := (List.eq_nil_or_concat' relative).resolve_left below
  refine ⟨inner, last, ⟨bytes, member⟩, rfl, ?_⟩
  rwa [← List.append_assoc, Bool.or_eq_true, endsWith_toString (by decide),
    endsWith_toString (by decide)] at ending

namespace SourceAt

variable {file : String} {inner : List String} {last : String}

theorem names (place : workspace.SourceAt file inner last) :
    ∀ part ∈ workspace.root.parts ++ (inner ++ [last]), Path.isName part = true := by
  obtain ⟨bytes, member⟩ := place.present
  exact workspace.files.named _ member

/-- Only excluded directories below the root keep a source file from being listed. -/
theorem listed_iff (place : workspace.SourceAt file inner last)
    (rooted : workspace.files.isDirectory workspace.root = true) :
    file ∈ workspace.findFiles sourcePatterns none ↔
      inner.any (fun part => excludedDirectories.contains part) = false := by
  rw [findFiles_root, FileSystem.mem_filesBelow]
  constructor
  · rintro ⟨_, relative, bytes, member, _, kept, text⟩
    have same : Path.ofString file = ⟨1, workspace.root.parts ++ relative⟩ := by
      rw [text, Path.ofString_toString (workspace.files.named _ member)]
    rw [place.text, Path.ofString_toString place.names] at same
    have parts : inner ++ [last] = relative := List.append_cancel_left (congrArg Path.parts same)
    rwa [← parts, anyExcluded_concat] at kept
  · intro kept
    obtain ⟨bytes, member⟩ := place.present
    refine ⟨rooted, inner ++ [last], bytes, member, ?_, ?_, place.text⟩
    · exact (matchesAny_source inner last).mpr place.ending
    · rwa [anyExcluded_concat]

theorem isWatched_eq (place : workspace.SourceAt file inner last) :
    isWatched file = !(workspace.insideExcluded ||
      inner.any fun part => excludedDirectories.contains part) := by
  have ending : (endsWith file ".ts" || endsWith file ".tsx") = true := by
    rw [place.text, ← List.append_assoc, Bool.or_eq_true, endsWith_toString (by decide),
      endsWith_toString (by decide)]
    exact place.ending
  rw [isWatched, ending, Bool.and_true, isExcludedPath, place.text,
    Path.ofString_toString place.names, ← List.append_assoc, anyExcluded_concat,
    List.any_append, insideExcluded]

end SourceAt

theorem hasSource_of_listed {file : String}
    (listed : file ∈ workspace.findFiles sourcePatterns none) : workspace.HasSource file := by
  rw [findFiles_root, FileSystem.mem_filesBelow] at listed
  obtain ⟨rooted, relative, bytes, member, matched, _, rfl⟩ := listed
  have below := FileSystem.relative_ne_nil rooted member
  obtain ⟨inner, last, rfl⟩ := (List.eq_nil_or_concat' relative).resolve_left below
  refine ⟨inner ++ [last], bytes, member, rfl, ?_⟩
  rw [← List.append_assoc, Bool.or_eq_true, endsWith_toString (by decide),
    endsWith_toString (by decide)]
  exact (matchesAny_source inner last).mp matched

theorem isDirectory_of_at? {files : FileSystem} {root : String}
    (opened : Workspace.at? files root = .ok workspace) :
    workspace.files = files ∧ workspace.files.isDirectory workspace.root = true := by
  unfold Workspace.at? at opened
  dsimp only at opened
  split at opened
  · next directory =>
    cases opened
    exact ⟨rfl, directory⟩
  · cases opened

theorem at?_toString {files : FileSystem} {parts : List String}
    (names : ∀ part ∈ parts, Path.isName part = true)
    (directory : files.isDirectory ⟨1, parts⟩ = true) :
    Workspace.at? files (Path.toString ⟨1, parts⟩) = .ok ⟨files, ⟨1, parts⟩⟩ := by
  have resolved : files.resolve (Path.toString ⟨1, parts⟩) = ⟨1, parts⟩ := by
    rw [FileSystem.resolve, Path.ofString_toString names, Path.resolve_absolute _ names]
  simp only [Workspace.at?, resolved, directory, if_true]

/-- A change of a listed file becomes pending, unless the root lies in an excluded directory: then it
is ignored. A change of a source file that is left out is always ignored. -/
theorem notify_listed {files : FileSystem} {root : String}
    (opened : Workspace.at? files root = .ok workspace) (watcher : Watcher) (kind : ChangeKind) :
    (∀ file ∈ workspace.findFiles sourcePatterns none,
      ∃ after, watcher.notifyLabelled file kind.label = .ok after ∧
        if workspace.insideExcluded then after = watcher
        else ⟨⟨file, kind⟩, watcher.now + watcher.debounce⟩ ∈ after.pending) ∧
    ∀ file, workspace.HasSource file → file ∉ workspace.findFiles sourcePatterns none →
      watcher.notifyLabelled file kind.label = .ok watcher := by
  obtain ⟨rfl, rooted⟩ := isDirectory_of_at? opened
  constructor
  · intro file listed
    obtain ⟨inner, last, place⟩ := (hasSource_of_listed listed).place rooted
    have watched := place.isWatched_eq
    rw [(place.listed_iff rooted).mp listed, Bool.or_false] at watched
    refine ⟨_, watcher.notifyLabelled_label file kind, ?_⟩
    cases inside : workspace.insideExcluded with
    | true =>
      rw [inside] at watched
      exact watcher.notify_unwatched kind watched
    | false =>
      rw [inside] at watched
      exact watcher.mem_pending_notify kind watched
  · intro file source unlisted
    obtain ⟨inner, last, place⟩ := source.place rooted
    have watched := place.isWatched_eq
    rw [place.listed_iff rooted, Bool.not_eq_false] at unlisted
    rw [unlisted, Bool.or_true, Bool.not_true] at watched
    rw [Watcher.notifyLabelled_label, watcher.notify_unwatched kind watched]

def nestedProjects : FileSystem :=
  let top := FileSystem.empty ⟨1, ["w"]⟩
  (top.insert ⟨1, ["w", "c.ts"]⟩ (.file [])).insert ⟨1, ["w", "out", "a.ts"]⟩ (.file [])

/-- From the outer root the file in the output directory is neither listed nor watched. -/
theorem notify_listed_nestedProjects :
    ∃ workspace, Workspace.at? nestedProjects "/w" = .ok workspace ∧
      workspace.findFiles sourcePatterns none = ["/w/c.ts"] ∧
      workspace.HasSource "/w/out/a.ts" ∧
      (∃ after, Watcher.notifyLabelled ⟨300, 0, [], []⟩ "/w/c.ts" "deleted" = .ok after ∧
        ⟨⟨"/w/c.ts", .deleted⟩, 300⟩ ∈ after.pending) ∧
      Watcher.notifyLabelled ⟨300, 0, [], []⟩ "/w/out/a.ts" "deleted" =
        .ok ⟨300, 0, [], []⟩ := by
  have root : Path.toString ⟨1, ["w"]⟩ = "/w" := by decide
  have opened : Workspace.at? nestedProjects "/w" = .ok ⟨nestedProjects, ⟨1, ["w"]⟩⟩ := by
    rw [← root]
    exact at?_toString (by decide) (by decide)
  have listed : findFiles ⟨nestedProjects, ⟨1, ["w"]⟩⟩ sourcePatterns none = ["/w/c.ts"] := by cbv
  have source : HasSource ⟨nestedProjects, ⟨1, ["w"]⟩⟩ "/w/out/a.ts" :=
    ⟨["out", "a.ts"], [], by decide, by cbv, by cbv⟩
  obtain ⟨watched, ignored⟩ := notify_listed opened ⟨300, 0, [], []⟩ .deleted
  refine ⟨_, opened, listed, source, ?_, ?_⟩
  · exact watched "/w/c.ts" (by simp [listed])
  · exact ignored "/w/out/a.ts" source (by simp [listed])

/-- From the inner root the same file is listed, and its changes are ignored. -/
theorem listed_not_watched_nestedProjects :
    ∃ workspace, Workspace.at? nestedProjects "/w/out" = .ok workspace ∧
      workspace.findFiles sourcePatterns none = ["/w/out/a.ts"] ∧
      ∃ after : Watcher,
        Watcher.notifyLabelled ⟨300, 0, [], []⟩ "/w/out/a.ts" "changed" = .ok after ∧
        "/w/out/a.ts" ∉ after.pendingPaths := by
  have root : Path.toString ⟨1, ["w", "out"]⟩ = "/w/out" := by decide
  have opened : Workspace.at? nestedProjects "/w/out" = .ok ⟨nestedProjects, ⟨1, ["w", "out"]⟩⟩ := by
    rw [← root]
    exact at?_toString (by decide) (by decide)
  have listed : findFiles ⟨nestedProjects, ⟨1, ["w", "out"]⟩⟩ sourcePatterns none =
      ["/w/out/a.ts"] := by cbv
  have unwatched : isWatched "/w/out/a.ts" = false := by decide
  refine ⟨_, opened, listed, _, Watcher.notifyLabelled_label _ _ .changed, ?_⟩
  rw [Watcher.notify_unwatched _ _ unwatched]
  simp [Watcher.pendingPaths]

end Workspace

end ModuleScope
