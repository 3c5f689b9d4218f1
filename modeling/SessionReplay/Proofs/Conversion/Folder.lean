import SessionReplay.Proofs.Conversion.Partition

/-!
# Converting a folder

All recordings of a folder are converted or fail, each of them once.

* `Converter.Finds`: the recordings that a conversion of a folder goes through.
* `Converter.mem_of_finds`: these are all recordings whose paths are not too long.
* `Converter.Undisturbed`: a folder whose recordings can be removed and do not hold the log.
* `Divided`, `Converter.divided_of_progress`: what the conversion of a folder comes to.
-/

namespace SessionReplay

open Storage

namespace Converter

variable {c : Converter} {d d' : Disk} {folder : String} {paths : List String} {h h' : Host}
  {batch : Batch}

/-! ## Going through a folder -/

/-- The recordings that a conversion of a folder goes through. -/
def Finds (d : Disk) (folder : String) (paths : List String) : Prop :=
  d.has folder = false ∧ paths = [] ∨ recordings d folder = .ok paths

theorem has_of_recordings (hFound : recordings d folder = .ok paths) : d.has folder = true := by
  obtain ⟨names, hNames, -⟩ := recordings_eq_ok.1 hFound
  obtain ⟨place, hFolder⟩ := Disk.find_of_list hNames
  exact Disk.has_iff.2 ⟨place, _, hFolder⟩

/-- The recordings are converted one after the other, after something may be logged. -/
theorem convertAll_of_finds (c : Converter) (hFinds : Finds h.disk folder paths) :
    ∃ before : Host, h.disk.Rewrites (h.disk.locate c.log) before.disk ∧
      c.convertAll folder h = (.ok (paths.foldl c.convertNext ({}, before)).1,
        (paths.foldl c.convertNext ({}, before)).2) := by
  rcases hFinds with ⟨hMissing, rfl⟩ | hFound
  · refine ⟨h.log c.log (noFolderMessage folder), h.log_rewrites c.log _, ?_⟩
    simp only [convertAll, hMissing, Bool.not_false, if_true]
    rfl
  · have hHas := has_of_recordings hFound
    by_cases hNone : paths.isEmpty = true
    · refine ⟨h.log c.log (noRecordingsMessage folder), h.log_rewrites c.log _, ?_⟩
      simp only [convertAll, hHas, hFound, hNone, Bool.not_true, Bool.false_eq_true, if_false,
        if_true]
    · refine ⟨h, .refl _ _, ?_⟩
      simp only [convertAll, hHas, hFound, hNone, Bool.not_true, Bool.false_eq_true, if_false]

theorem exists_finds (h : d.has folder = false ∨ ∃ place, d.find folder = .ok (place, .folder)) :
    ∃ paths, Finds d folder paths := by
  rcases h with hMissing | ⟨place, hFolder⟩
  · exact ⟨[], .inl ⟨hMissing, rfl⟩⟩
  · have hList : ∃ names, d.list folder = .ok names := by
      simp only [Disk.list, hFolder, bind, Except.bind]
      exact ⟨_, rfl⟩
    obtain ⟨names, hNames⟩ := hList
    exact ⟨_, .inr (recordings_eq_ok.2 ⟨names, hNames, rfl⟩)⟩

theorem finds_of_convertAll (hRun : c.convertAll folder h = (.ok batch, h')) :
    ∃ paths, Finds h.disk folder paths := by
  unfold convertAll at hRun
  cases hHas : h.disk.has folder with
  | false => exact ⟨[], .inl ⟨hHas, rfl⟩⟩
  | true =>
    cases hFound : recordings h.disk folder with
    | error fault => simp [hHas, hFound] at hRun
    | ok paths => exact ⟨paths, .inr hFound⟩

/-- Which recordings are gone through. -/
theorem mem_of_finds (hFinds : Finds d folder paths) {path : String} :
    path ∈ paths ↔ ∃ name, d.HoldsRecording folder name ∧ path = Path.join folder name ∧
      path.utf8ByteSize ≤ maxPath := by
  rcases hFinds with ⟨hMissing, rfl⟩ | hFound
  · simp only [List.not_mem_nil, false_iff]
    rintro ⟨name, ⟨place, bytes, hFind, -⟩, -⟩
    rw [Bool.eq_false_iff] at hMissing
    exact hMissing (Disk.has_iff.2 ⟨place, _, hFind⟩)
  · exact mem_recordings hFound

theorem nodup_of_finds (hFinds : Finds d folder paths) : (paths.map d.locate).Nodup := by
  rcases hFinds with ⟨-, rfl⟩ | hFound
  · exact List.nodup_nil
  · exact nodup_recordings hFound

/-- A folder that does not hold the log and is not below it, and whose recordings can be removed. -/
structure Undisturbed (c : Converter) (d : Disk) (folder : String) : Prop extends c.Apart d where
  outside : ¬ d.locate folder <+: d.locate c.log
  aside : ¬ d.locate c.log <+: d.locate folder
  unlocked : ∀ name, d.HoldsRecording folder name →
    d.isLocked (d.locate folder ++ [name]) = false

theorem sources_of_finds (hRest : c.Undisturbed d folder) (hFinds : Finds d folder paths) :
    Sources c d paths where
  source := by
    intro path hMem
    obtain ⟨name, hHolds, rfl, hSize⟩ := (mem_of_finds hFinds).1 hMem
    obtain ⟨place, bytes, hFolder, hEntry, hExtension⟩ := hHolds
    have hName := Disk.isName_of_stands hEntry
    have hPlain := Path.isPlain_of_isName hName
    have hPlace := Disk.locate_of_find hFolder
    have hCheck := Disk.checkPath_join hName (Disk.find_eq_ok.1 hFolder).1 hSize
    have hLocate := d.locate_join hPlain folder
    refine ⟨⟨bytes, ?_⟩, ⟨_, Disk.target_join hName hFolder hCheck, rfl⟩, ?_, ?_, ?_⟩
    · rw [hLocate, ← hPlace]
      exact Disk.find_join hName hFolder hSize hEntry
    · rw [Path.extension?_join hPlain, hExtension]
    · rw [hLocate]
      intro hSame
      exact hRest.outside (hSame ▸ List.prefix_append _ _)
    · rw [hLocate]
      exact hRest.unlocked name ⟨place, bytes, hFolder, hEntry, hExtension⟩
  nodup := nodup_of_finds hFinds

/-- What holds when a folder was converted. -/
theorem progress_of_convertAll (hRest : c.Undisturbed h.disk folder)
    (hFinds : Finds h.disk folder paths) (hRun : c.convertAll folder h = (.ok batch, h')) :
    Progress c h.disk paths batch h'.disk := by
  obtain ⟨before, hLog, hEq⟩ := convertAll_of_finds c hFinds
  rw [hEq] at hRun
  obtain ⟨hBatch, rfl⟩ := Prod.mk.inj hRun
  obtain rfl := Except.ok.inj hBatch
  have hSources := sources_of_finds hRest hFinds
  have hAll : Progress c h.disk ([] ++ paths) _ _ :=
    Progress.run (({} : Batch), before) hRest.toApart hSources (.start hLog)
  exact hAll

/-! ## What it comes to -/

/-- What the conversion of a folder comes to: each recording is converted or fails, once. -/
structure Divided (c : Converter) (folder : String) (h h' : Host) (batch : Batch) : Prop where
  /-- These are all recordings whose paths are not too long, and nothing else. -/
  complete : ∀ path, path ∈ batch.sources ++ batch.failures ↔
    ∃ name, h.disk.HoldsRecording folder name ∧ path = Path.join folder name ∧
      path.utf8ByteSize ≤ maxPath
  once : (batch.sources ++ batch.failures).Nodup
  ordered : ∀ paths, recordings h.disk folder = .ok paths →
    batch.sources.Sublist paths ∧ batch.failures.Sublist paths
  kept : ∀ path ∈ batch.failures, ∃ bytes, h.disk.read path = .ok bytes ∧
    h'.disk.read path = .ok bytes
  gone : ∀ path ∈ batch.sources, h'.disk.has path = false
  changes : h.disk.ChangesOnly (batch.Touches c h.disk) h'.disk
  /-- Of the recordings that share a script, the last one is in it. -/
  written : ∀ before x after, batch.converted = before ++ x :: after →
    (∀ y ∈ after, y.script ≠ x.script) → Written c h.disk h'.disk x

theorem failure_untouched {done : List String} (hSources : Sources c d done)
    (hProgress : Progress c d done batch d') {path : String} (hMem : path ∈ batch.failures) :
    ¬ batch.Touches c d (d.locate path) := by
  have hDone := hProgress.failed.subset hMem
  have hSource := hSources.source path hDone
  rintro (hSame | ⟨x, hConverted, hSame | hSame⟩)
  · exact hSource.log hSame.symm
  · have hOther : x.source ∈ batch.sources := List.mem_map_of_mem hConverted
    have hEq := List.inj_on_of_nodup_map hSources.nodup hDone (hProgress.converted.subset hOther)
      hSame
    have hNodup := hProgress.divided.nodup_iff.2 hSources.nodup.of_map
    exact (List.nodup_append.1 hNodup).2.2 _ hOther _ hMem hEq.symm
  · obtain ⟨stem, hScript⟩ := hProgress.named x hConverted
    rw [hScript] at hSame
    exact hSource.script stem hSame.symm

theorem divided_of_progress (hSources : Sources c h.disk paths)
    (hFinds : Finds h.disk folder paths) (hProgress : Progress c h.disk paths batch h'.disk) :
    Divided c folder h h' batch where
  complete path := by
    rw [hProgress.divided.mem_iff]
    exact mem_of_finds hFinds
  once := hProgress.divided.nodup_iff.2 hSources.nodup.of_map
  ordered others hOthers := by
    rcases hFinds with ⟨hMissing, -⟩ | hFound
    · simp [has_of_recordings hOthers] at hMissing
    · obtain rfl : paths = others := by simpa [hFound] using hOthers
      exact ⟨hProgress.converted, hProgress.failed⟩
  kept path hMem := by
    obtain ⟨bytes, hFind⟩ := (hSources.source path (hProgress.failed.subset hMem)).file
    exact ⟨bytes, Disk.read_of_find hFind, Disk.read_of_find
      (Disk.find_mono hProgress.changes hFind (failure_untouched hSources hProgress hMem))⟩
  gone path hMem := by
    obtain ⟨x, hConverted, rfl⟩ := List.mem_map.1 hMem
    exact hProgress.gone x hConverted
  changes := hProgress.changes
  written := hProgress.written

end Converter
end SessionReplay
