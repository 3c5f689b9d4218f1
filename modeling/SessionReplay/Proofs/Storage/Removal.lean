import SessionReplay.Proofs.Storage.Lookup

/-!
# Disks without a file

Removing a file leaves everything else where it was: folders stay, so that every other path leads
where it led before.

* `Disk.entry?_erase`: what stands at a place when a file is gone.
* `Disk.find_erase`: what a path names then; `Disk.lists_erase`: what a folder lists.
* `Disk.eq_erase_of_remove`, `Disk.eq_erase_of_remove_join`: what removing a file leaves.
-/

namespace SessionReplay.Disk

open Storage

variable {d : Disk} {place : Place} {bytes : ByteArray}

@[simp] theorem start_erase (d : Disk) (place : Place) (path : String) :
    (d.erase place).start path = d.start path := rfl

theorem ne_nil_of_file (hFile : d.entry? place = some (.file bytes)) : place ≠ [] := by
  rintro rfl
  unfold entry? at hFile
  simp at hFile

theorem entry?_erase_of_ne {other : Place} (hOther : other ≠ place) :
    Disk.entry? (d.erase place) other = d.entry? other := by
  unfold entry?
  split
  · rfl
  · congr 1
    rw [erase, List.find?_filter]
    congr 1
    funext e
    by_cases he : e.1 = other
    · simp [he, hOther]
    · simp [he]

theorem entry?_erase_self (hPlace : place ≠ []) : Disk.entry? (d.erase place) place = none := by
  simp [erase, entry?, List.find?_filter, hPlace]

/-- What stands at a place when the file at another place is gone. -/
theorem entry?_erase (hFile : d.entry? place = some (.file bytes)) {other : Place} {entry : Entry} :
    Disk.entry? (d.erase place) other = some entry ↔ d.entry? other = some entry ∧ other ≠ place := by
  by_cases hOther : other = place
  · simp [hOther, entry?_erase_self (ne_nil_of_file hFile)]
  · simp [hOther, entry?_erase_of_ne hOther]

theorem enter_erase (hFile : d.entry? place = some (.file bytes)) (folder : Place) :
    (d.erase place).enter folder = .ok () ↔ d.enter folder = .ok () := by
  rw [enter_eq_ok, enter_eq_ok, entry?_erase hFile, and_iff_left_iff_imp]
  rintro hFolder rfl
  simp [hFile] at hFolder

theorem walk_erase (hFile : d.entry? place = some (.file bytes)) (pieces : List String)
    (start found : Place) :
    (d.erase place).walk start pieces = .ok found ↔ d.walk start pieces = .ok found := by
  induction pieces generalizing start with
  | nil => rfl
  | cons piece rest ih =>
    have hEnter := enter_erase hFile start
    simp only [walk, bind, Except.bind]
    cases hOld : d.enter start with
    | error fault =>
      cases hNew : (d.erase place).enter start with
      | error fault => simp
      | ok _ => simp [hOld, hNew] at hEnter
    | ok _ =>
      rw [hEnter.2 hOld]
      cases Path.partOf piece with
      | none => exact ih start
      | some part =>
        cases part with
        | root => exact ih start
        | here => exact ih start
        | up => exact ih _
        | name name =>
          dsimp only
          split
          · rfl
          · exact ih _

/-- What a path names when the file at a place is gone. -/
theorem find_erase (hFile : d.entry? place = some (.file bytes)) {path : String} {found : Place}
    {entry : Entry} :
    (d.erase place).find path = .ok (found, entry) ↔
      d.find path = .ok (found, entry) ∧ found ≠ place := by
  rw [find_eq_ok, find_eq_ok, start_erase, walk_erase hFile, entry?_erase hFile]
  simp only [and_assoc]

theorem find_folder_erase (hFile : d.entry? place = some (.file bytes)) {path : String}
    {folder : Place} :
    (d.erase place).find path = .ok (folder, .folder) ↔ d.find path = .ok (folder, .folder) := by
  rw [find_erase hFile, and_iff_left_iff_imp]
  rintro hFolder rfl
  simp [(find_eq_ok.1 hFolder).2.2] at hFile

/-- What a folder lists when the file at a place is gone. -/
theorem lists_erase (hFile : d.entry? place = some (.file bytes)) {path name : String}
    {folder : Place} (hFolder : d.find path = .ok (folder, .folder)) :
    (d.erase place).Lists path name ↔ d.Lists path name ∧ folder ++ [name] ≠ place := by
  rw [lists_iff, lists_iff]
  constructor
  · rintro ⟨found, hFound, hMem⟩
    rw [find_folder_erase hFile, hFolder] at hFound
    obtain rfl := (Prod.mk.inj (Except.ok.inj hFound)).1
    obtain ⟨e, he, hPlace⟩ := List.mem_map.1 hMem
    obtain ⟨hEntry, hNe⟩ := List.mem_filter.1 he
    refine ⟨⟨folder, hFolder, hPlace ▸ List.mem_map_of_mem hEntry⟩, ?_⟩
    rw [← hPlace]
    simpa using hNe
  · rintro ⟨⟨found, hFound, hMem⟩, hNe⟩
    rw [hFolder] at hFound
    obtain rfl := (Prod.mk.inj (Except.ok.inj hFound)).1
    refine ⟨folder, (find_folder_erase hFile).2 hFolder, ?_⟩
    obtain ⟨e, he, hPlace⟩ := List.mem_map.1 hMem
    refine List.mem_map.2 ⟨e, List.mem_filter.2 ⟨he, ?_⟩, hPlace⟩
    simpa [hPlace] using hNe

/-! ## Removing a file -/

theorem has_iff {path : String} :
    d.has path = true ↔ ∃ found entry, d.find path = .ok (found, entry) := by
  unfold has
  split
  · next found hFind => simpa [hFind] using ⟨found.1, found.2, rfl⟩
  · next fault hFind => simp [hFind]

/-- A path whose file can be removed names that file. -/
theorem eq_erase_of_remove {d' : Disk} {path : String} (h : d.remove path = .ok d') :
    ∃ found bytes, d.find path = .ok (found, .file bytes) ∧
      d.entry? found = some (.file bytes) ∧ d' = d.erase found := by
  obtain ⟨t, bytes, hTarget, hSlash, hEntry, -, rfl⟩ := remove_eq_ok.1 h
  exact ⟨t.place, bytes, find_of_target hTarget hSlash hEntry, hEntry, rfl⟩

theorem eq_erase_of_remove_join {d' : Disk} {path name : String} {folder : Place}
    (hName : isName name = true) (hFolder : d.find path = .ok (folder, .folder))
    (h : d.remove (Path.join path name) = .ok d') :
    ∃ bytes, d.entry? (folder ++ [name]) = some (.file bytes) ∧
      d' = d.erase (folder ++ [name]) := by
  obtain ⟨t, bytes, hTarget, -, hEntry, -, rfl⟩ := remove_eq_ok.1 h
  have hCheck := (eq_before_of_target hTarget).1
  rw [target_join hName hFolder hCheck] at hTarget
  obtain rfl := Option.some.inj (Except.ok.inj hTarget)
  exact ⟨bytes, hEntry, rfl⟩

end SessionReplay.Disk
