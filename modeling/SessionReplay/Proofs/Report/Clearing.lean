import SessionReplay.Proofs.Report.Purge
import SessionReplay.Proofs.Storage.Tidying

/-!
# What a purge takes away

A purge also tries to remove what is no file; this fails and changes nothing. So it is enough that
files can be removed.

* `Disk.clears`: every removal that a purge tries where a file stands succeeds.
* `Disk.purge_tidies`: nothing goes but the file of results and reports of the run.
* `Disk.write_purge_tidies`: so it is if the results were written just before.
* `Disk.not_isFile_of_clears`: the results are no file any more.
* `Disk.not_holdsFile_of_clears`: no report of the run is a file any more.
-/

namespace SessionReplay.Disk

open Storage

variable {d : Disk} {paths : List String} {path results reports : String}

/-! ## Removing files one after the other -/

/-- Whether removals, one after the other, succeed wherever a file stands. -/
def clearsAll : List String → Disk → Bool
  | [], _ => true
  | path :: paths, d =>
    match d.remove path with
    | .ok d => clearsAll paths d
    | .error _ => !d.holdsFile (d.locate path) && clearsAll paths d

theorem clearsAll_cons (h : clearsAll (path :: paths) d = true) :
    (∃ d', d.remove path = .ok d' ∧ clearsAll paths d' = true) ∨
      (∃ fault, d.remove path = .error fault) ∧ d.holdsFile (d.locate path) = false ∧
        clearsAll paths d = true := by
  unfold clearsAll at h
  split at h
  · next d' hRemove => exact .inl ⟨d', hRemove, h⟩
  · next fault hRemove =>
    rw [Bool.and_eq_true, Bool.not_eq_true'] at h
    exact .inr ⟨⟨fault, hRemove⟩, h⟩

theorem discard_of_error (count : Nat) {fault : Fault} (h : d.remove path = .error fault) :
    discard (count, d) path = (count, d) := by
  simp [discard, h]

theorem discardAll_tidies (count : Nat) (paths : List String) (d : Disk) :
    Tidies (d.IsPlaceOf paths) (fun _ => False) d (paths.foldl discard (count, d)).2 := by
  induction paths generalizing count d with
  | nil => exact .refl _ _ d
  | cons path paths ih =>
    have hFirst (place : Place) (h : place = d.locate path) : d.IsPlaceOf (path :: paths) place :=
      ⟨path, by simp, h⟩
    have hOthers (place : Place) : d.IsPlaceOf paths place → d.IsPlaceOf (path :: paths) place :=
      fun ⟨other, hMem, h⟩ => ⟨other, List.mem_cons_of_mem _ hMem, h⟩
    rw [List.foldl_cons]
    cases hRemove : d.remove path with
    | error fault =>
      rw [discard_of_error count hRemove]
      exact (ih count d).mono hOthers fun _ => id
    | ok d' =>
      rw [discard_of_remove count hRemove]
      have hRest := ih (count + 1) d'
      have hHome : d'.home = d.home := (tidies_of_remove hRemove).home
      refine ((tidies_of_remove hRemove).mono hFirst fun _ => id).trans
        (hRest.mono (fun place ⟨other, hMem, h⟩ => hOthers place ⟨other, hMem, ?_⟩) fun _ => id)
        fun _ hNone => hNone.elim
      rw [h, locate_eq_of_home hHome]

theorem none_of_remove {d' : Disk} (h : d.remove path = .ok d') :
    d'.entry? (d.locate path) = none := by
  obtain ⟨place, bytes, hFind, hFile, rfl⟩ := eq_erase_of_remove h
  obtain rfl := locate_of_find hFind
  exact entry?_erase_self (ne_nil_of_file hFile)

/-- A file that is to be removed is removed. -/
theorem discardAll_clears (count : Nat) (h : clearsAll paths d = true) (hMem : path ∈ paths)
    (hFile : d.holdsFile (d.locate path) = true) :
    Disk.entry? (paths.foldl discard (count, d)).2 (d.locate path) = none := by
  induction paths generalizing count d with
  | nil => cases hMem
  | cons first paths ih =>
    rw [List.foldl_cons]
    rcases clearsAll_cons h with ⟨d', hRemove, hRest⟩ | ⟨⟨fault, hRemove⟩, hNoFile, hRest⟩
    · have hTidies := tidies_of_remove hRemove
      have hLocate : d'.locate path = d.locate path := locate_eq_of_home hTidies.home path
      rw [discard_of_remove count hRemove]
      by_cases hHeld : d'.holdsFile (d'.locate path) = true
      · rcases List.mem_cons.mp hMem with rfl | hMem
        · obtain ⟨bytes, hBytes⟩ := holdsFile_iff.1 hHeld
          rw [hLocate, none_of_remove hRemove] at hBytes
          cases hBytes
        · rw [← hLocate]
          exact ih (count + 1) hRest hMem hHeld
      · refine (discardAll_tidies (count + 1) paths d').none_of_none ?_
        rcases hTidies.entries (d.locate path) with hSame | ⟨-, -, hNone⟩ | ⟨hMade, -, -⟩
        · rw [holdsFile, hLocate, hSame] at hHeld
          exact absurd hFile hHeld
        · exact hNone
        · exact hMade.elim
    · rw [discard_of_error count hRemove]
      rcases List.mem_cons.mp hMem with rfl | hMem
      · rw [hNoFile] at hFile
        cases hFile
      · exact ih count hRest hMem hFile

/-! ## Purging -/

/-- Whether every removal that a purge tries where a file stands succeeds. -/
def clears (d : Disk) (results reports : String) : Bool :=
  clearsAll (d.purgePaths results reports) d

/-- The places that a purge takes files from: that of the results, and those of reports of a run. -/
def IsPurged (d : Disk) (results reports : String) (place : Place) : Prop :=
  place = d.locate results ∨ ∃ name, isRunReport name = true ∧ place = d.locate reports ++ [name]

theorem withoutResults_tidies (d : Disk) (results : String) :
    Tidies (· = d.locate results) (fun _ => False) d (d.withoutResults results).2 := by
  rw [← discardAll_results]
  refine (discardAll_tidies 0 _ d).mono ?_ fun _ => id
  rintro place ⟨path, hMem, hPlace⟩
  split at hMem
  · rw [hPlace, List.mem_singleton.mp hMem]
  · cases hMem

theorem locate_runReport {name : String} (hLists : d.Lists reports name) :
    d.locate (Path.join reports name) = d.locate reports ++ [name] :=
  locate_join d (Path.isPlain_of_isName hLists.isName) reports

theorem mem_runReports : path ∈ d.runReports reports ↔
    ∃ name, d.Lists reports name ∧ isRunReport name = true ∧ path = Path.join reports name := by
  unfold runReports Lists
  cases d.list reports with
  | error fault => simp
  | ok names =>
    simp only [List.mem_map, List.mem_filter, Except.ok.injEq, exists_eq_left']
    constructor
    · rintro ⟨name, ⟨hMem, hRun⟩, rfl⟩
      exact ⟨name, hMem, hRun, rfl⟩
    · rintro ⟨name, hMem, hRun, rfl⟩
      exact ⟨name, ⟨hMem, hRun⟩, rfl⟩

theorem isPurged_of_mem (h : path ∈ d.purgePaths results reports) :
    d.IsPurged results reports (d.locate path) := by
  have hHome := (withoutResults_tidies d results).home
  rw [purgePaths] at h
  rcases List.mem_append.mp h with hResults | hReports
  · split at hResults
    · exact .inl (by rw [List.mem_singleton.mp hResults])
    · cases hResults
  · obtain ⟨name, hLists, hRun, rfl⟩ := mem_runReports.1 hReports
    have hPlace := locate_runReport hLists
    rw [locate_eq_of_home hHome, locate_eq_of_home hHome] at hPlace
    exact .inr ⟨name, hRun, hPlace⟩

/-- Nothing goes but the file of results and reports of the run. -/
theorem purge_tidies (d : Disk) (results reports : String) :
    Tidies (d.IsPurged results reports) (fun _ => False) d (d.purge results reports).2 := by
  rw [purge_eq]
  refine (discardAll_tidies 0 _ d).mono ?_ fun _ => id
  rintro place ⟨path, hMem, rfl⟩
  exact isPurged_of_mem hMem

/-- A file that a purge tries to remove is removed. -/
theorem none_of_clears (h : d.clears results reports = true)
    (hMem : path ∈ d.purgePaths results reports) (hFile : d.holdsFile (d.locate path) = true) :
    Disk.entry? (d.purge results reports).2 (d.locate path) = none := by
  rw [purge_eq]
  exact discardAll_clears 0 h hMem hFile

theorem results_mem_purgePaths (h : d.has results = true) :
    results ∈ d.purgePaths results reports := by
  simp [purgePaths, h]

/-- The results are no file any more. -/
theorem not_isFile_of_clears (h : d.clears results reports = true) :
    Disk.isFile (d.purge results reports).2 results = false := by
  rw [Bool.eq_false_iff]
  intro hIs
  unfold isFile at hIs
  split at hIs
  · next place bytes hFind =>
    have hHome := (purge_tidies d results reports).home
    have hPlace := locate_of_find hFind
    rw [locate_eq_of_home hHome] at hPlace
    have hEntry := (find_eq_ok.1 hFind).2.2
    rw [purge_eq] at hFind
    have hOld := find_of_find_discardAll hFind
    have hMem : results ∈ d.purgePaths results reports :=
      results_mem_purgePaths (has_iff.2 ⟨_, _, hOld⟩)
    rw [hPlace, none_of_clears h hMem (holdsFile_of_find hOld)] at hEntry
    cases hEntry
  · cases hIs

/-- No report of the run is a file any more. -/
theorem not_holdsFile_of_clears (h : d.clears results reports = true) {folder : Place}
    (hFolder : Disk.find (d.purge results reports).2 reports = .ok (folder, .folder))
    {name : String} (hRun : isRunReport name = true) :
    Disk.holdsFile (d.purge results reports).2 (folder ++ [name]) = false := by
  rw [Bool.eq_false_iff]
  intro hHeld
  have hMid := withoutResults_tidies d results
  have hSplit : d.purge results reports =
      ((d.withoutResults results).2.runReports reports).foldl discard (d.withoutResults results) := by
    rw [purge_eq, purgePaths, List.foldl_append, discardAll_results]
  obtain ⟨bytes, hBytes⟩ := holdsFile_iff.1 hHeld
  rw [hSplit] at hFolder hHeld
  -- What is still a file after the purge was a file when the folder was listed, and so was listed.
  have hOld : Disk.find (d.withoutResults results).2 reports = .ok (folder, .folder) :=
    find_of_find_discardAll hFolder
  have hStood : Disk.holdsFile (d.withoutResults results).2 (folder ++ [name]) = true :=
    ((discardAll_tidies _ _ _).holdsFile hHeld).1
  obtain ⟨old, hStands⟩ := holdsFile_iff.1 hStood
  have hLists := lists_iff.2 ⟨folder, hOld, mem_entries hStands⟩
  have hMem : Path.join reports name ∈ d.purgePaths results reports :=
    List.mem_append_right _ (mem_runReports.2 ⟨name, hLists, hRun, rfl⟩)
  have hPlace : d.locate (Path.join reports name) = folder ++ [name] := by
    rw [← locate_eq_of_home hMid.home, locate_runReport hLists, ← locate_of_find hOld]
  have hGone := none_of_clears h hMem (hPlace.symm ▸ (hMid.holdsFile hStood).1)
  rw [hPlace, hBytes] at hGone
  cases hGone

/-- What was written to the results is gone behind the purge. -/
theorem write_purge_tidies {written : Disk} {bytes : ByteArray}
    (hWrite : d.write results bytes = .ok written) (hClears : written.clears results reports = true) :
    Tidies (d.IsPurged results reports) (fun _ => False) d (written.purge results reports).2 := by
  obtain ⟨hEdits, hFind⟩ := edits_of_write hWrite
  have hPurge := written.purge_tidies results reports
  have hResults : written.locate results = d.locate results := locate_eq_of_home hEdits.home _
  have hReports : written.locate reports = d.locate reports := locate_eq_of_home hEdits.home _
  have hGone := none_of_clears hClears (results_mem_purgePaths (has_iff.2 ⟨_, _, hFind⟩))
    (holdsFile_of_find hFind)
  refine ⟨hPurge.home.trans hEdits.home, hPurge.locked.trans hEdits.locked, fun place => ?_⟩
  by_cases hPlace : place = d.locate results
  · subst hPlace
    rw [hResults] at hGone
    cases hOld : d.entry? (d.locate results) with
    | none => exact .inl hGone
    | some entry =>
      cases entry with
      | file bytes => exact .inr (.inl ⟨.inl rfl, holdsFile_iff.2 ⟨bytes, hOld⟩, hGone⟩)
      | folder =>
        have hFolder := (hEdits.folders _).2 hOld
        rw [(find_eq_ok.1 hFind).2.2] at hFolder
        cases hFolder
  · have hSame := hEdits.same place hPlace
    rcases hPurge.entries place with hKept | ⟨hPurged, hFile, hNone⟩ | ⟨hMade, -, -⟩
    · exact .inl (hKept.trans hSame)
    · rw [IsPurged, hResults, hReports] at hPurged
      rw [holdsFile, hSame] at hFile
      exact .inr (.inl ⟨hPurged, hFile, hNone⟩)
    · exact hMade.elim

end SessionReplay.Disk
