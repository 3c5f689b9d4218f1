import SessionReplay.Proofs.Report.Clearing

/-!
# What a purge counts

A purge takes the files of a run, and no other file and no folder. It counts what it takes, each
file once, even where the results stand among the reports under the name of one.

* `Disk.IsRunFile`: the places of the files of a run; `Disk.Removable`: they can be removed.
* `Disk.Loses`: the files at some places are gone, and nothing else has changed.
* `Disk.filePlaces`: the places where files stand.
* `Disk.discardAll_counts`: what is counted is missing then.
* `Disk.purge_exact`: a purge takes the files of a run and tells how many these were, and the next
  purge finds nothing.
-/

namespace SessionReplay.Disk

open Storage

variable {d d' : Disk} {paths : List String} {path results reports : String} {place : Place}

/-! ## The places of files -/

/-- The places where files stand. -/
def filePlaces (d : Disk) : List Place := (d.entries.map (·.1)).filter d.holdsFile

theorem nodup_filePlaces (d : Disk) : d.filePlaces.Nodup := d.nodup.filter _

theorem mem_filePlaces : place ∈ d.filePlaces ↔ d.holdsFile place = true := by
  rw [filePlaces, List.mem_filter, and_iff_right_iff_imp]
  intro hHeld
  obtain ⟨bytes, hBytes⟩ := holdsFile_iff.1 hHeld
  obtain ⟨folder, name, rfl⟩ := List.eq_nil_or_concat place |>.resolve_left (ne_nil_of_file hBytes)
  rw [List.concat_eq_append] at hBytes ⊢
  exact mem_entries hBytes

/-- A disk on which files are gone has its files where the other one has them still. -/
theorem length_filePlaces {gone : Place → Prop} (h : Tidies gone (fun _ => False) d d') :
    (d.filePlaces.filter fun place => !d'.holdsFile place).length + d'.filePlaces.length =
      d.filePlaces.length := by
  have hKept : (d.filePlaces.filter d'.holdsFile).Perm d'.filePlaces := by
    refine (List.perm_ext_iff_of_nodup ((nodup_filePlaces d).filter _) (nodup_filePlaces d')).2 ?_
    intro place
    rw [List.mem_filter, mem_filePlaces, mem_filePlaces, and_iff_right_iff_imp]
    exact fun hHeld => (h.holdsFile hHeld).1
  rw [← hKept.length_eq, Nat.add_comm]
  exact (List.length_eq_length_filter_add d'.holdsFile).symm

/-- Removing a file takes its place from those of the files. -/
theorem perm_filePlaces_of_remove (h : d.remove path = .ok d') :
    d.filePlaces.Perm (d.locate path :: d'.filePlaces) := by
  obtain ⟨place, bytes, hFind, hFile, rfl⟩ := eq_erase_of_remove h
  obtain rfl := locate_of_find hFind
  have hGone : d.locate path ∉ Disk.filePlaces (d.erase (d.locate path)) := by
    rw [mem_filePlaces, holdsFile_iff, entry?_erase_self (ne_nil_of_file hFile)]
    simp
  refine (List.perm_ext_iff_of_nodup (nodup_filePlaces d)
    (List.nodup_cons.2 ⟨hGone, nodup_filePlaces _⟩)).2 fun other => ?_
  rw [List.mem_cons, mem_filePlaces, mem_filePlaces]
  by_cases hOther : other = d.locate path
  · subst hOther
    simp [holdsFile_of_find hFind]
  · rw [holdsFile, holdsFile, entry?_erase_of_ne hOther]
    simp [hOther]

/-! ## Removing files one after the other -/

/-- What goes was found by one of the paths. -/
theorem discardAll_found (count : Nat) (paths : List String) (d : Disk) :
    Tidies (fun place => ∃ path ∈ paths, ∃ bytes, d.find path = .ok (place, .file bytes))
      (fun _ => False) d (paths.foldl discard (count, d)).2 := by
  induction paths generalizing count d with
  | nil => exact .refl _ _ d
  | cons path paths ih =>
    rw [List.foldl_cons]
    cases hRemove : d.remove path with
    | error fault =>
      rw [discard_of_error count hRemove]
      exact (ih count d).mono (fun place ⟨other, hMem, hFound⟩ =>
        ⟨other, List.mem_cons_of_mem _ hMem, hFound⟩) fun _ => id
    | ok d' =>
      rw [discard_of_remove count hRemove]
      obtain ⟨found, bytes, hFind, hFile, hErase⟩ := eq_erase_of_remove hRemove
      refine ((tidies_of_remove hRemove).mono (fun place hPlace => ?_) fun _ => id).trans
        ((ih (count + 1) d').mono (fun place ⟨other, hMem, old, hFound⟩ => ?_) fun _ => id)
        fun _ hNone => hNone.elim
      · rw [hPlace, ← locate_of_find hFind]
        exact ⟨path, List.mem_cons_self, bytes, hFind⟩
      · rw [hErase, find_erase hFile] at hFound
        exact ⟨other, List.mem_cons_of_mem _ hMem, old, hFound.1⟩

theorem discardAll_sublist (count : Nat) (paths : List String) (d : Disk) :
    List.Sublist (Disk.entries (paths.foldl discard (count, d)).2) d.entries := by
  induction paths generalizing count d with
  | nil => exact .refl _
  | cons path paths ih =>
    rw [List.foldl_cons]
    cases hRemove : d.remove path with
    | error fault =>
      rw [discard_of_error count hRemove]
      exact ih count d
    | ok d' =>
      rw [discard_of_remove count hRemove]
      obtain ⟨found, bytes, -, -, rfl⟩ := eq_erase_of_remove hRemove
      exact (ih (count + 1) _).trans List.filter_sublist

/-- What is counted is missing then. -/
theorem discardAll_counts (count : Nat) (paths : List String) (d : Disk) :
    (paths.foldl discard (count, d)).1 +
        (Disk.filePlaces (paths.foldl discard (count, d)).2).length =
      count + d.filePlaces.length := by
  induction paths generalizing count d with
  | nil => rfl
  | cons path paths ih =>
    rw [List.foldl_cons]
    cases hRemove : d.remove path with
    | error fault =>
      rw [discard_of_error count hRemove]
      exact ih count d
    | ok d' =>
      rw [discard_of_remove count hRemove, ih, (perm_filePlaces_of_remove hRemove).length_eq,
        List.length_cons]
      omega

/-- Where nothing can be removed, nothing is counted. -/
theorem discardAll_eq (count : Nat) (h : ∀ path ∈ paths, ∀ d', d.remove path ≠ .ok d') :
    paths.foldl discard (count, d) = (count, d) := by
  induction paths with
  | nil => rfl
  | cons path paths ih =>
    obtain ⟨hFirst, hRest⟩ := List.forall_mem_cons.1 h
    cases hRemove : d.remove path with
    | error fault => rw [List.foldl_cons, discard_of_error count hRemove, ih hRest]
    | ok d' => exact absurd hRemove (hFirst d')

/-- A file that could be removed from a disk can be removed as long as it stands there. -/
theorem exists_remove_of_edits {touched : Place → Prop} (h : Edits touched d d') {gone : Disk}
    (hRemove : d.remove path = .ok gone) (hHeld : d'.holdsFile (d'.locate path) = true) :
    ∃ gone', d'.remove path = .ok gone' := by
  obtain ⟨t, bytes, hTarget, hSlash, -, hUnlocked, -⟩ := remove_eq_ok.1 hRemove
  obtain ⟨old, hOld⟩ := holdsFile_iff.1 hHeld
  rw [locate_eq_of_home h.home, ← locate_of_target hTarget hSlash] at hOld
  refine ⟨_, remove_eq_ok.2 ⟨t, old, ?_, hSlash, hOld, ?_, rfl⟩⟩
  · exact target_mono h.home (fun place => (h.folders place).2) hTarget
  · rw [isLocked, h.locked]
    exact hUnlocked

/-- If each of the files can be removed, they can be removed one after the other. -/
theorem clearsAll_of_forall (h : ∀ path ∈ paths, d.holdsFile (d.locate path) = true →
      ∃ gone, d.remove path = .ok gone) : clearsAll paths d = true := by
  induction paths generalizing d with
  | nil => rfl
  | cons path paths ih =>
    obtain ⟨hFirst, hRest⟩ := List.forall_mem_cons.1 h
    unfold clearsAll
    split
    · next d' hRemove =>
      obtain ⟨hEdits, -⟩ := edits_of_remove hRemove
      refine ih fun other hMem hHeld => ?_
      have hHeld' : d.holdsFile (d.locate other) = true := by
        rw [← locate_eq_of_home hEdits.home]
        exact ((tidies_of_remove hRemove).holdsFile hHeld).1
      obtain ⟨gone, hGone⟩ := hRest other hMem hHeld'
      exact exists_remove_of_edits hEdits hGone hHeld
    · next fault hRemove =>
      rw [Bool.and_eq_true, Bool.not_eq_true', Bool.eq_false_iff]
      refine ⟨fun hHeld => ?_, ih hRest⟩
      obtain ⟨gone, hGone⟩ := hFirst hHeld
      rw [hRemove] at hGone
      cases hGone

/-! ## The files of a run -/

/-- A file of a run stands here: the file of results, or a report in the folder of reports. -/
def IsRunFile (d : Disk) (results reports : String) (place : Place) : Prop :=
  (∃ bytes, d.find results = .ok (place, .file bytes)) ∨
    ∃ folder middle bytes, d.find reports = .ok (folder, .folder) ∧
      place = folder ++ ["mochawesome" ++ middle ++ ".json"] ∧
      d.entry? place = some (.file bytes)

/-- The files of a run can be removed. -/
structure Removable (d : Disk) (results reports : String) : Prop where
  results : ∀ place bytes, d.find results = .ok (place, .file bytes) →
    ∃ gone, d.remove results = .ok gone
  reports : ∀ folder name bytes, d.find reports = .ok (folder, .folder) → isRunReport name = true →
    d.entry? (folder ++ [name]) = some (.file bytes) →
    ∃ gone, d.remove (Path.join reports name) = .ok gone

/-- The files at some places are gone, and nothing else has changed. -/
structure Loses (gone : Place → Prop) (d d' : Disk) : Prop where
  home : d'.home = d.home
  locked : d'.locked = d.locked
  order : d'.entries.Sublist d.entries
  lost : ∀ place, gone place → d'.entry? place = none
  kept : ∀ place, ¬ gone place → d'.entry? place = d.entry? place

/-! ## Purging -/

variable {name : String}

/-- Where the folder of reports is found behind the removal of the results, it was found before. -/
theorem find_reports_of_lists (hLists : (d.withoutResults results).2.Lists reports name) :
    ∃ folder, d.find reports = .ok (folder, .folder) ∧
      d.locate (Path.join reports name) = folder ++ [name] := by
  have hHome := (withoutResults_tidies d results).home
  have hPlace := locate_runReport hLists
  obtain ⟨folder, hFolder, -⟩ := lists_iff.1 hLists
  rw [← discardAll_results] at hFolder
  have hFind := find_of_find_discardAll hFolder
  rw [locate_eq_of_home hHome, locate_eq_of_home hHome, ← locate_of_find hFind] at hPlace
  exact ⟨folder, hFind, hPlace⟩

/-- What a purge tries to remove and finds is a file of the run. -/
theorem isRunFile_of_mem {bytes : ByteArray} (hMem : path ∈ d.purgePaths results reports)
    (hFind : d.find path = .ok (place, .file bytes)) : d.IsRunFile results reports place := by
  rw [purgePaths] at hMem
  rcases List.mem_append.mp hMem with hResults | hReports
  · split at hResults
    · rw [List.mem_singleton.mp hResults] at hFind
      exact .inl ⟨bytes, hFind⟩
    · cases hResults
  · obtain ⟨name, hLists, hRun, rfl⟩ := mem_runReports.1 hReports
    obtain ⟨folder, hFolder, hPlace⟩ := find_reports_of_lists hLists
    obtain ⟨middle, rfl⟩ := isRunReport_iff.1 hRun
    rw [← locate_of_find hFind] at hPlace
    exact .inr ⟨folder, middle, bytes, hFolder, hPlace, (find_eq_ok.1 hFind).2.2⟩

theorem clears_of_removable (h : d.Removable results reports) :
    d.clears results reports = true := by
  refine clearsAll_of_forall fun path hMem hHeld => ?_
  obtain ⟨bytes, hBytes⟩ := holdsFile_iff.1 hHeld
  rw [purgePaths] at hMem
  rcases List.mem_append.mp hMem with hResults | hReports
  · split at hResults
    · next hHas =>
      obtain ⟨place, entry, hFind⟩ := has_iff.1 hHas
      rw [List.mem_singleton.mp hResults, ← locate_of_find hFind, (find_eq_ok.1 hFind).2.2] at hBytes
      rw [List.mem_singleton.mp hResults]
      exact h.results place bytes (by rw [hFind, Option.some.inj hBytes])
    · cases hResults
  · obtain ⟨name, hLists, hRun, rfl⟩ := mem_runReports.1 hReports
    obtain ⟨folder, hFolder, hPlace⟩ := find_reports_of_lists hLists
    rw [hPlace] at hBytes
    exact h.reports folder name bytes hFolder hRun hBytes

/-- Where only files go, folders are found as before. -/
theorem find_folder_tidies {gone : Place → Prop} (h : Tidies gone (fun _ => False) d d')
    (hFind : d.find path = .ok (place, .folder)) : d'.find path = .ok (place, .folder) := by
  have hFolders (place : Place) (hFolder : d.entry? place = some .folder) :
      d'.entry? place = some .folder := by
    rcases h.entries place with hSame | ⟨-, hHeld, -⟩ | ⟨hMade, -, -⟩
    · rw [hSame, hFolder]
    · rw [holdsFile, hFolder] at hHeld
      cases hHeld
    · exact hMade.elim
  obtain ⟨hCheck, hWalk, hEntry⟩ := find_eq_ok.1 hFind
  refine find_eq_ok.2 ⟨hCheck, ?_, hFolders place hEntry⟩
  rw [start_eq h.home]
  exact walk_mono hFolders hWalk

/-- A file of a run is gone behind the purge. -/
theorem none_of_isRunFile (hClears : d.clears results reports = true)
    (h : d.IsRunFile results reports place) :
    Disk.entry? (d.purge results reports).2 place = none := by
  rcases h with ⟨bytes, hFind⟩ | ⟨folder, middle, bytes, hFolder, hPlace, hBytes⟩
  · rw [locate_of_find hFind]
    exact none_of_clears hClears (results_mem_purgePaths (has_iff.2 ⟨_, _, hFind⟩))
      (holdsFile_of_find hFind)
  · have hFolder' := find_folder_tidies (d.purge_tidies results reports) hFolder
    have hNoFile := not_holdsFile_of_clears hClears hFolder' (isRunReport_iff.2 ⟨middle, rfl⟩)
    rw [← hPlace, Bool.eq_false_iff] at hNoFile
    rcases (d.purge_tidies results reports).entries place with hSame | ⟨-, -, hNone⟩ | ⟨hMade, -, -⟩
    · exact absurd (holdsFile_iff.2 ⟨bytes, hSame.trans hBytes⟩) hNoFile
    · exact hNone
    · exact hMade.elim

theorem purge_loses (hClears : d.clears results reports = true) :
    Loses (d.IsRunFile results reports) d (d.purge results reports).2 := by
  have hTidies := d.purge_tidies results reports
  refine ⟨hTidies.home, hTidies.locked, ?_, fun place => none_of_isRunFile hClears, ?_⟩
  · rw [purge_eq]
    exact discardAll_sublist 0 _ d
  · intro place hPlace
    have hFound := discardAll_found 0 (d.purgePaths results reports) d
    rw [← purge_eq] at hFound
    rcases hFound.entries place with hSame | ⟨⟨path, hMem, bytes, hFind⟩, -, -⟩ | ⟨hMade, -, -⟩
    · exact hSame
    · exact absurd (isRunFile_of_mem hMem hFind) hPlace
    · exact hMade.elim

/-- No file becomes one of a run. -/
theorem isRunFile_of_purge (h : IsRunFile (d.purge results reports).2 results reports place) :
    d.IsRunFile results reports place := by
  rcases h with ⟨bytes, hFind⟩ | ⟨folder, middle, bytes, hFolder, hPlace, hBytes⟩
  · rw [purge_eq] at hFind
    exact .inl ⟨bytes, find_of_find_discardAll hFind⟩
  · have hSame := ((d.purge_tidies results reports).holdsFile (holdsFile_iff.2 ⟨bytes, hBytes⟩)).2
    rw [purge_eq] at hFolder
    exact .inr ⟨folder, middle, bytes, find_of_find_discardAll hFolder, hPlace, hSame ▸ hBytes⟩

theorem IsRunFile.exists_file (h : d.IsRunFile results reports place) :
    ∃ bytes, d.entry? place = some (.file bytes) := by
  rcases h with ⟨bytes, hFind⟩ | ⟨folder, middle, bytes, -, -, hBytes⟩
  · exact ⟨bytes, (find_eq_ok.1 hFind).2.2⟩
  · exact ⟨bytes, hBytes⟩

/-- Where no file of a run stands, a purge does nothing. -/
theorem purge_eq_of_none (h : ∀ place, ¬ d.IsRunFile results reports place) :
    d.purge results reports = (0, d) := by
  rw [purge_eq]
  refine discardAll_eq 0 fun path hMem d' hRemove => ?_
  obtain ⟨place, bytes, hFind, -, -⟩ := eq_erase_of_remove hRemove
  exact h place (isRunFile_of_mem hMem hFind)

/-- **A purge takes the files of a run, and counts them.** Where they can be removed, all of them
are gone, and every other file and every folder is where it was. The number is that of the files
that were there before and are not any more. A second purge removes nothing. -/
theorem purge_exact (hRemovable : d.Removable results reports) :
    Loses (d.IsRunFile results reports) d (d.purge results reports).2 ∧
      (d.purge results reports).1 =
        (d.filePlaces.filter fun place =>
          !Disk.holdsFile (d.purge results reports).2 place).length ∧
      Disk.purge (d.purge results reports).2 results reports = (0, (d.purge results reports).2) := by
  have hLoses := purge_loses (clears_of_removable hRemovable)
  refine ⟨hLoses, ?_, purge_eq_of_none fun place hRun => ?_⟩
  · have hCount := discardAll_counts 0 (d.purgePaths results reports) d
    rw [← purge_eq] at hCount
    have hMissing := length_filePlaces (d.purge_tidies results reports)
    omega
  · obtain ⟨bytes, hBytes⟩ := hRun.exists_file
    rw [hLoses.lost place (isRunFile_of_purge hRun)] at hBytes
    cases hBytes

/-- A folder of reports with the results among them, and a folder that is named like a report. -/
def crowdedReports : Disk :=
  (((((Disk.empty []).put ["reports"] .folder).put ["reports", "mochawesome.json"]
    (.file .empty)).put ["reports", "mochawesome-1.json"] (.file .empty)).put
    ["reports", "mochawesome-2.json"] .folder).put ["reports", "notes.json"] (.file .empty)

theorem removable_crowdedReports :
    crowdedReports.Removable "reports/mochawesome.json" "reports" := by
  have hReports : crowdedReports.find "reports" = .ok (["reports"], .folder) := by decide +kernel
  have hRemove : ∀ name ∈ ["mochawesome.json", "mochawesome-1.json"],
      (crowdedReports.remove (Path.join "reports" name)).toOption.isSome = true := by
    decide +kernel
  have hOk (name : String) (hMem : name ∈ ["mochawesome.json", "mochawesome-1.json"]) :
      ∃ gone, crowdedReports.remove (Path.join "reports" name) = .ok gone := by
    have hSome := hRemove name hMem
    cases hGone : crowdedReports.remove (Path.join "reports" name) with
    | ok gone => exact ⟨gone, rfl⟩
    | error fault => simp [hGone, Except.toOption] at hSome
  refine ⟨fun _ _ _ => hOk "mochawesome.json" (by simp), ?_⟩
  intro folder name bytes hFolder hRun hFile
  obtain rfl := (Prod.mk.inj (Except.ok.inj (hReports.symm.trans hFolder))).1
  have hMem : ["reports"] ++ [name] ∈ [["reports"], ["reports", "mochawesome.json"],
      ["reports", "mochawesome-1.json"], ["reports", "mochawesome-2.json"],
      ["reports", "notes.json"]] := mem_entries hFile
  simp only [List.singleton_append, List.mem_cons, List.cons.injEq, true_and, and_true,
    List.not_mem_nil, or_false, reduceCtorEq, false_or] at hMem
  rcases hMem with rfl | rfl | rfl | rfl
  · exact hOk _ (by simp)
  · exact hOk _ (by simp)
  · have hFolder' : crowdedReports.entry? ["reports", "mochawesome-2.json"] = some .folder := by
      decide +kernel
    rw [List.singleton_append, hFolder'] at hFile
    cases hFile
  · exact absurd hRun (by decide)

/-- Results that stand among the reports under the name of one are counted once. -/
theorem purge_exact_crowded :
    let purged := crowdedReports.purge "reports/mochawesome.json" "reports"
    crowdedReports.Removable "reports/mochawesome.json" "reports" ∧ purged.1 = 2 ∧
      Disk.entry? purged.2 ["reports", "mochawesome-2.json"] = some .folder ∧
      Disk.entry? purged.2 ["reports", "notes.json"] = some (.file .empty) ∧
      Disk.purge purged.2 "reports/mochawesome.json" "reports" = (0, purged.2) := by
  intro purged
  obtain ⟨-, hCount, hAgain⟩ := purge_exact removable_crowdedReports
  refine ⟨removable_crowdedReports, ?_, by decide +kernel, by decide +kernel, hAgain⟩
  rw [hCount]
  decide +kernel

end SessionReplay.Disk
