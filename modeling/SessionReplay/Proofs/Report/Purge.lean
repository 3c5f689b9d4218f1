import SessionReplay.Proofs.Storage.Removal
import SessionReplay.Report.Purge
import Mathlib.Tactic.Tauto

/-!
# What a purge leaves

* `isRunReport_iff`: the names of the reports of a run.
* `Disk.purges`: every removal that a purge tries succeeds.
* `Disk.IsEntry`: a path names an entry of a folder.
* `Disk.lists_purge`: the folder of reports lists what it listed before, except the reports of the
  run and the file of results.
* `Disk.not_has_of_purges`: the results are gone.
-/

namespace SessionReplay

/-! ## The names of reports -/

theorem isRunReport_iff {name : String} :
    isRunReport name = true ↔ ∃ middle, name = "mochawesome" ++ middle ++ ".json" := by
  rw [isRunReport, Bool.and_eq_true, List.isPrefixOf_iff_prefix, List.isSuffixOf_iff_suffix]
  constructor
  · rintro ⟨⟨behind, hBehind⟩, ⟨before, hBefore⟩⟩
    rw [← hBefore, List.append_eq_append_iff] at hBehind
    rcases hBehind with ⟨middle, hMiddle, -⟩ | ⟨common, hCommon, hJson⟩
    · refine ⟨String.ofList middle, String.toList_inj.1 ?_⟩
      simp only [← hBefore, hMiddle, String.toList_append, String.toList_ofList]
    · -- The beginning has no dot, so the end cannot start in it.
      cases common with
      | nil =>
        refine ⟨"", String.toList_inj.1 ?_⟩
        rw [← hBefore, String.append_empty, String.toList_append, hCommon, List.append_nil]
      | cons first common =>
        obtain rfl : '.' = first := (List.cons.inj hJson).1
        have hDot : '.' ∈ "mochawesome".toList := by simp [hCommon]
        exact absurd hDot (by decide)
  · rintro ⟨middle, rfl⟩
    rw [String.toList_append, String.toList_append]
    exact ⟨⟨_, (List.append_assoc ..).symm⟩, List.suffix_append _ _⟩

namespace Disk

open Storage

/-! ## Removing files one after the other -/

/-- Whether all files at these paths can be removed, one after the other. -/
def removesAll : List String → Disk → Bool
  | [], _ => true
  | path :: paths, d =>
    match d.remove path with
    | .ok d => removesAll paths d
    | .error _ => false

theorem removesAll_cons {path : String} {paths : List String} {d : Disk}
    (h : removesAll (path :: paths) d = true) :
    ∃ d', d.remove path = .ok d' ∧ removesAll paths d' = true := by
  unfold removesAll at h
  split at h
  · next d' hRemove => exact ⟨d', hRemove, h⟩
  · contradiction

theorem discard_of_remove (count : Nat) {d d' : Disk} {path : String}
    (h : d.remove path = .ok d') : discard (count, d) path = (count + 1, d') := by
  simp [discard, h]

theorem removesAll_append (count : Nat) {before after : List String} {d : Disk}
    (h : removesAll (before ++ after) d = true) :
    removesAll before d = true ∧
      removesAll after (before.foldl discard (count, d)).2 = true := by
  induction before generalizing count d with
  | nil => exact ⟨rfl, h⟩
  | cons path before ih =>
    obtain ⟨d', hRemove, hRest⟩ := removesAll_cons h
    obtain ⟨hBefore, hAfter⟩ := ih (count + 1) hRest
    rw [List.foldl_cons, discard_of_remove count hRemove]
    exact ⟨by simpa [removesAll, hRemove] using hBefore, hAfter⟩

/-- What is removed of a folder, it lists no longer. -/
theorem lists_discardAll (count : Nat) {reports : String} {folder : Place} {names : List String}
    (hNames : ∀ name ∈ names, isName name = true) {d : Disk}
    (hFolder : d.find reports = .ok (folder, .folder))
    (h : removesAll (names.map (Path.join reports)) d = true) (name : String) :
    ((names.map (Path.join reports)).foldl discard (count, d)).2.Lists reports name ↔
      d.Lists reports name ∧ name ∉ names := by
  induction names generalizing count d with
  | nil => simp
  | cons first names ih =>
    rw [List.forall_mem_cons] at hNames
    obtain ⟨d', hRemove, hRest⟩ := removesAll_cons h
    obtain ⟨bytes, hFile, rfl⟩ := eq_erase_of_remove_join hNames.1 hFolder hRemove
    rw [List.map_cons, List.foldl_cons, discard_of_remove count hRemove,
      ih _ hNames.2 ((find_folder_erase hFile).2 hFolder) hRest, lists_erase hFile hFolder]
    simp [and_assoc]

/-- Removing files does not make a path name something that it did not name before. -/
theorem find_of_find_discardAll {paths : List String} {count : Nat} {d : Disk} {path : String}
    {found : Place} {entry : Entry}
    (h : (paths.foldl discard (count, d)).2.find path = .ok (found, entry)) :
    d.find path = .ok (found, entry) := by
  induction paths generalizing count d with
  | nil => exact h
  | cons first paths ih =>
    rw [List.foldl_cons] at h
    cases hRemove : d.remove first with
    | error fault =>
      have hSame : discard (count, d) first = (count, d) := by simp [discard, hRemove]
      rw [hSame] at h
      exact ih h
    | ok d' =>
      obtain ⟨place, bytes, -, hFile, rfl⟩ := eq_erase_of_remove hRemove
      rw [discard_of_remove count hRemove] at h
      exact ((find_erase hFile).1 (ih h)).1

/-! ## Purging -/

/-- The disk without the results. -/
def withoutResults (d : Disk) (results : String) : Nat × Disk :=
  if d.has results then discard (0, d) results else (0, d)

/-- The paths of the files that a purge tries to remove. -/
def purgePaths (d : Disk) (results reports : String) : List String :=
  (if d.has results then [results] else []) ++ (d.withoutResults results).2.runReports reports

/-- Whether every removal that a purge tries succeeds. -/
def purges (d : Disk) (results reports : String) : Bool :=
  removesAll (d.purgePaths results reports) d

theorem purge_eq (d : Disk) (results reports : String) :
    d.purge results reports = (d.purgePaths results reports).foldl discard (0, d) := by
  unfold purge purgePaths withoutResults
  split <;> simp

theorem discardAll_results (d : Disk) (results : String) :
    (if d.has results then [results] else []).foldl discard (0, d) = d.withoutResults results := by
  unfold withoutResults
  split <;> rfl

/-- A path names an entry of a folder. -/
def IsEntry (d : Disk) (path folder name : String) : Prop :=
  ∃ place entry, d.find folder = .ok (place, .folder) ∧ d.find path = .ok (place ++ [name], entry)

theorem lists_withoutResults {d : Disk} {results : String}
    (h : removesAll (if d.has results then [results] else []) d = true) (reports name : String) :
    (d.withoutResults results).2.Lists reports name ↔
      d.Lists reports name ∧ ¬ d.IsEntry results reports name := by
  unfold withoutResults
  split at h
  · next hHas =>
    obtain ⟨d', hRemove, -⟩ := removesAll_cons h
    obtain ⟨found, bytes, hFind, hFile, hErase⟩ := eq_erase_of_remove hRemove
    rw [if_pos hHas, discard_of_remove 0 hRemove, hErase]
    by_cases hFolder : ∃ folder, d.find reports = .ok (folder, .folder)
    · obtain ⟨folder, hFolder⟩ := hFolder
      rw [lists_erase hFile hFolder]
      simp [IsEntry, hFolder, hFind, eq_comm]
    · simp only [not_exists] at hFolder
      simp [lists_iff, find_folder_erase hFile, hFolder]
  · next hHas =>
    have hNone : ¬ d.IsEntry results reports name := by
      rintro ⟨place, entry, -, hFind⟩
      exact hHas (has_iff.2 ⟨_, _, hFind⟩)
    simp [hHas, hNone]

/-- After a purge the folder of reports lists what it listed before, except the reports of the run
and the file of results. -/
theorem lists_purge {d : Disk} {results reports : String} (h : d.purges results reports = true)
    (name : String) :
    (d.purge results reports).2.Lists reports name ↔
      d.Lists reports name ∧ isRunReport name = false ∧ ¬ d.IsEntry results reports name := by
  obtain ⟨hResults, hReports⟩ := removesAll_append 0 h
  rw [discardAll_results] at hReports
  rw [purge_eq, purgePaths, List.foldl_append, discardAll_results]
  have hFirst := lists_withoutResults hResults reports name
  generalize d.withoutResults results = purged at hReports hFirst ⊢
  obtain ⟨count, first⟩ := purged
  dsimp only at hReports hFirst ⊢
  unfold runReports at hReports ⊢
  cases hNames : first.list reports with
  | error fault =>
    have hNone : ¬ first.Lists reports name := by
      rintro ⟨names, hList, -⟩
      simp [hNames] at hList
    simp only [List.foldl_nil]
    tauto
  | ok names =>
    rw [hNames] at hReports
    have hValid : ∀ n ∈ names.filter isRunReport, Storage.isName n = true := by
      intro n hn
      exact Lists.isName ⟨names, hNames, (List.mem_filter.1 hn).1⟩
    obtain ⟨folder, hFolder⟩ := find_of_list hNames
    have hMem : first.Lists reports name ↔ name ∈ names := by
      simp [Lists, hNames]
    dsimp only
    rw [lists_discardAll count hValid hFolder hReports, List.mem_filter, ← hMem, hFirst]
    simp only [Bool.eq_false_iff]
    tauto

/-- The file of results is gone after a purge. -/
theorem not_has_of_purges {d : Disk} {results reports : String}
    (h : d.purges results reports = true) : (d.purge results reports).2.has results = false := by
  obtain ⟨hResults, -⟩ := removesAll_append 0 h
  rw [Bool.eq_false_iff]
  intro hHas
  obtain ⟨place, entry, hFind⟩ := has_iff.1 hHas
  rw [purge_eq, purgePaths, List.foldl_append, discardAll_results] at hFind
  cases hOld : d.has results with
  | true =>
    rw [if_pos hOld] at hResults
    obtain ⟨d', hRemove, -⟩ := removesAll_cons hResults
    obtain ⟨found, bytes, hFound, hFile, hErase⟩ := eq_erase_of_remove hRemove
    have hFirst : d.withoutResults results = (1, d.erase found) := by
      rw [withoutResults, if_pos hOld, discard_of_remove 0 hRemove, hErase]
    rw [hFirst] at hFind
    obtain ⟨hSame, hNe⟩ := (find_erase hFile).1 (find_of_find_discardAll hFind)
    rw [hFound] at hSame
    exact hNe (Prod.mk.inj (Except.ok.inj hSame)).1.symm
  | false =>
    have hFirst : d.withoutResults results = (0, d) := by simp [withoutResults, hOld]
    rw [hFirst] at hFind
    have hHas' := has_iff.2 ⟨place, entry, find_of_find_discardAll hFind⟩
    exact Bool.noConfusion (hOld.symm.trans hHas')

end Disk
end SessionReplay
