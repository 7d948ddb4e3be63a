import Mathlib
import ModuleScope.Proofs.SourceOrder

/-!
Searching in batches. Whatever the size of a batch, the search gives the usages of one readable file
after another: every file's usages come in source order, so what is put together file by file is
already sorted, and a file that cannot be opened takes away its own usages only.
-/
namespace ModuleScope

open TypeScript

def Usage.Before (first second : Usage) : Prop :=
  first.file < second.file ∨ first.file = second.file ∧ first.range.start < second.range.start

namespace Usage.Before

variable {first second : Usage}

theorem comesFirst (before : first.Before second) : first.comesFirst second = true := by
  rw [comesFirst_iff]
  rcases before with earlier | ⟨same, position⟩
  · exact Or.inl earlier
  · have line : first.line ≤ second.line := by
      rcases position with above | ⟨level, _⟩
      · exact le_of_lt above
      · exact le_of_eq level
    exact Or.inr ⟨same, line⟩

theorem ne (before : first.Before second) : first ≠ second := by
  rintro rfl
  rcases before with earlier | ⟨_, position⟩
  · exact lt_irrefl _ earlier
  · exact Position.lt_irrefl _ position

end Usage.Before

theorem strictly_sorted {texts : List String} (ordered : texts.Pairwise (· ≤ ·))
    (distinct : texts.Nodup) : texts.Pairwise (· < ·) := by
  apply (ordered.and distinct).imp
  intro left right both
  exact lt_of_le_of_ne both.1 both.2

namespace Host

theorem openDocument_refusing {host : Host} {refusal : String → Option Failure} {file : String}
    {document : Document} :
    (host.refusing refusal).openDocument file = .ok document ↔
      refusal file = none ∧ host.openDocument file = .ok document := by
  unfold Host.refusing
  cases refused : refusal file with
  | none => simp [refused]
  | some failure => simp [refused]

theorem Gives.refusing {host : Host} {property : Code → Prop} (gives : host.Gives property)
    (refusal : String → Option Failure) : (host.refusing refusal).Gives property := by
  intro path document code opened parsed
  exact gives path document code (openDocument_refusing.mp opened).2 parsed

theorem NamesDocuments.refusing {host : Host} (named : host.NamesDocuments)
    (refusal : String → Option Failure) : (host.refusing refusal).NamesDocuments := by
  intro path document opened
  exact named path document (openDocument_refusing.mp opened).2

section Searching

variable {host : Host} (named : host.NamesDocuments) (symbol : String) (container : Option String)
  (graph : Option ModuleGraph)
include named

theorem flatMap_usagesIn (files : List String) :
    files.flatMap (host.usagesIn symbol container graph) =
      (host.readable files).flatMap fun document => document.usages symbol container
        ((graph.bind fun graph => graph.moduleForFile? document.path).map Module.name) := by
  induction files with
  | nil => rfl
  | cons file rest ih =>
    rw [List.flatMap_cons, ih]
    cases opened : host.openDocument file with
    | error failure =>
      rw [readable_of_error opened]
      simp [usagesIn, Opened.usages, opened]
    | ok document =>
      rw [readable_of_ok opened, List.flatMap_cons, named file document opened]
      simp [usagesIn, Opened.usages, opened]

theorem usagesIn_ordered (sound : host.Gives (·.tree.Sound)) {files : List String}
    (ordered : files.Pairwise (· < ·)) :
    (files.flatMap (host.usagesIn symbol container graph)).Pairwise Usage.Before := by
  rw [List.pairwise_flatMap]
  constructor
  · intro file _
    unfold usagesIn Opened.usages
    split
    · next document opened =>
      have read (code : Code) := sound file document code opened
      apply (Document.usages_ordered read symbol container _).imp_of_mem
      intro first second reported reported' position
      exact Or.inr ⟨(file_of_mem_usages reported).trans (file_of_mem_usages reported').symm, position⟩
    · exact .nil
  · apply ordered.imp
    intro earlier later before first inFirst second inSecond
    left
    rw [named.file_of_mem_usagesIn inFirst, named.file_of_mem_usagesIn inSecond]
    exact before

theorem searchFiles_ordered (sound : host.Gives (·.tree.Sound)) {files : List String}
    (ordered : files.Pairwise (· < ·)) (size : Nat) :
    (searchFiles size symbol container graph files).result host =
      .ok (files.flatMap (host.usagesIn symbol container graph)) := by
  have already := usagesIn_ordered named symbol container graph sound ordered
  rw [searchFiles_result, List.mergeSort_of_pairwise (already.imp Usage.Before.comesFirst)]

theorem usagesIn_refusing (files : List String) (file : String) (failure : Failure) :
    files.flatMap ((host.refusing fun path => if path = file then some failure else none).usagesIn
        symbol container graph) =
      (files.flatMap (host.usagesIn symbol container graph)).filter (·.file != file) := by
  rw [List.filter_flatMap]
  apply List.flatMap_congr
  intro path _
  by_cases same : path = file
  · have dropped : (host.usagesIn symbol container graph path).filter (·.file != file) = [] := by
      rw [List.filter_eq_nil_iff]
      intro usage member
      rw [named.file_of_mem_usagesIn member]
      simp [same]
    rw [dropped]
    simp [usagesIn, Opened.usages, Host.refusing, same]
  · have kept : (host.usagesIn symbol container graph path).filter (·.file != file) =
        host.usagesIn symbol container graph path := by
      rw [List.filter_eq_self]
      intro usage member
      rw [named.file_of_mem_usagesIn member]
      simpa using same
    rw [kept]
    simp [usagesIn, Host.refusing, same]

end Searching

end Host

theorem candidateFiles_result (workspace : Workspace) (refusal : String → Option Failure)
    {scope : Option (List String)} (distinct : ∀ files ∈ scope, files.Nodup) :
    ∃ candidates, (candidateFiles scope).result (workspace.host.refusing refusal) = .ok candidates ∧
      candidates.Pairwise (· < ·) ∧
      ∀ file, file ∈ candidates ↔ file ∈ scope.getD (workspace.findFiles sourcePatterns none) := by
  cases scope with
  | none =>
    have listed : (workspace.findFiles sourcePatterns none).Pairwise (· ≤ ·) ∧
        (workspace.findFiles sourcePatterns none).Nodup := FileSystem.filesBelow_sorted _ _
    exact ⟨_, rfl, strictly_sorted listed.1 listed.2, by simp⟩
  | some files =>
    have apart : (sorted files).Nodup := List.nodup_mergeSort.mpr (distinct files rfl)
    exact ⟨_, rfl, strictly_sorted (pairwise_sorted files) apart, by simp [mem_sorted]⟩

/-- In a set of files, or without one in all source files, the search in batches of any size gives what
the readable files report, one after another in the order of their paths. That is strictly increasing
by file, line and column; and if one more file cannot be opened, exactly its usages are missing. The
trees of the files are taken to be sound, which puts the usages of one file in order. -/
theorem searchUsages_eq_plain (workspace : Workspace)
    (sound : workspace.host.Gives (·.tree.Sound)) (refusal : String → Option Failure)
    (scope : Option (List String)) (distinct : ∀ files ∈ scope, files.Nodup) (symbol : String)
    (container : Option String) (graph : Option ModuleGraph) :
    let host := workspace.host.refusing refusal
    let search (size : Nat) (host : Host) : Except Failure (List Usage) :=
      (candidateFiles scope >>= searchFiles size symbol container graph).result host
    ∃ candidates : List String, candidates.Pairwise (· < ·) ∧
      (∀ file, file ∈ candidates ↔ file ∈ scope.getD (workspace.findFiles sourcePatterns none)) ∧
      let usages := (host.readable candidates).flatMap fun document => document.usages symbol container
        ((graph.bind fun graph => graph.moduleForFile? document.path).map Module.name)
      (searchUsages symbol scope container graph).result host = .ok usages ∧
      (∀ size, 1 ≤ size → search size host = .ok usages) ∧
      usages.Pairwise Usage.Before ∧ usages.Nodup ∧
      ∀ size, 1 ≤ size → ∀ file failure,
        search size (host.refusing fun path => if path = file then some failure else none) =
          .ok (usages.filter (·.file != file)) := by
  intro host search
  have named : host.NamesDocuments := workspace.host_namesDocuments.refusing refusal
  have read : host.Gives (·.tree.Sound) := sound.refusing refusal
  obtain ⟨candidates, listed, ordered, members⟩ := candidateFiles_result workspace refusal distinct
  refine ⟨candidates, ordered, members, ?_⟩
  rw [← Host.flatMap_usagesIn named symbol container graph candidates]
  have found (size : Nat) : search size host =
      .ok (candidates.flatMap (host.usagesIn symbol container graph)) := by
    dsimp only [search]
    rw [Work.result_bind, listed]
    exact Host.searchFiles_ordered named symbol container graph read ordered size
  have before := Host.usagesIn_ordered named symbol container graph read ordered
  refine ⟨found batchSize, fun size _ => found size, before, before.imp Usage.Before.ne, ?_⟩
  intro size _ file failure
  have again : (candidateFiles scope).result
      (host.refusing fun path => if path = file then some failure else none) = .ok candidates := by
    rw [← listed]
    cases scope <;> rfl
  dsimp only [search]
  rw [Work.result_bind, again, ← Host.usagesIn_refusing named]
  exact Host.searchFiles_ordered (named.refusing _) symbol container graph (read.refusing _) ordered size

theorem Workspace.twoModules_sound : twoModules.host.Gives (·.tree.Sound) :=
  sound_of_texts (by decide +kernel)

/-- Of three files that are given in no order, one does not exist; then another cannot be opened. -/
theorem searchUsages_eq_plain_missingFile :
    let scope := ["/w/c.ts", "/w/missing.ts", "/w/b/b.module.ts"]
    let host := Workspace.twoModules.host.refusing fun _ => none
    let later := host.refusing fun path => if path = "/w/c.ts" then some (.crashed "lost") else none
    Workspace.twoModules.host.Gives (·.tree.Sound) ∧ scope.Nodup ∧
      (host.openDocument "/w/missing.ts").toOption.isNone = true ∧
      ∃ candidates : List String, candidates.Pairwise (· < ·) ∧
        (∀ file, file ∈ candidates ↔ file ∈ scope) ∧
        let usages := (host.readable candidates).flatMap fun document => document.usages "A" none none
        (searchUsages "A" (some scope) none none).result host = .ok usages ∧
        (searchUsages "A" (some scope) none none).result later =
          .ok (usages.filter (·.file != "/w/c.ts")) := by
  intro scope host later
  have distinct : scope.Nodup := by decide
  obtain ⟨candidates, ordered, members, found, _, _, _, without⟩ :=
    searchUsages_eq_plain Workspace.twoModules Workspace.twoModules_sound (fun _ => none) (some scope)
      (by simpa using distinct) "A" none none
  exact ⟨Workspace.twoModules_sound, distinct, by decide, candidates, ordered, members, found,
    without batchSize (by decide) "/w/c.ts" (.crashed "lost")⟩

end ModuleScope
