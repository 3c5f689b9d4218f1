import SessionReplay.Proofs.Storage.Locate
import SessionReplay.Proofs.Storage.Removal

/-!
# What changes on a disk

Every operation that changes a disk leaves all files alone but the one at the place of its path,
and none takes a folder away.

* `Disk.ChangesOnly`: files change at some places only, and folders may be made.
* `Disk.Edits`: nothing changes but the files at some places; `Disk.Rewrites`: a file at one place
  may change, but does not go away.
* `Disk.find_mono`: what a path names it names still.
* `Disk.edits_of_write`, `Disk.edits_of_remove`, `Disk.makeFolders_changesOnly`: the operations.
-/

namespace SessionReplay.Disk

open Storage

variable {d d' d'' : Disk} {touched more : Place → Prop}

/-! ## Kinds of changes -/

/-- Files change at the touched places only. Folders may be made anywhere, but none goes away. -/
structure ChangesOnly (touched : Place → Prop) (d d' : Disk) : Prop where
  home : d'.home = d.home
  locked : d'.locked = d.locked
  kept : ∀ place entry, ¬ touched place → d.entry? place = some entry →
    d'.entry? place = some entry
  files : ∀ place bytes, ¬ touched place → d'.entry? place = some (.file bytes) →
    d.entry? place = some (.file bytes)
  folders : ∀ place, d.entry? place = some .folder → d'.entry? place = some .folder

/-- Nothing changes but files at the touched places. -/
structure Edits (touched : Place → Prop) (d d' : Disk) : Prop where
  home : d'.home = d.home
  locked : d'.locked = d.locked
  same : ∀ place, ¬ touched place → d'.entry? place = d.entry? place
  folders : ∀ place, d'.entry? place = some .folder ↔ d.entry? place = some .folder

/-- Nothing changes but the file at a place, which may be made but does not go away. -/
structure Rewrites (place : Place) (d d' : Disk) : Prop extends Edits (· = place) d d' where
  stays : (d.entry? place).isSome = true → (d'.entry? place).isSome = true

namespace ChangesOnly

theorem refl (touched : Place → Prop) (d : Disk) : ChangesOnly touched d d :=
  ⟨rfl, rfl, fun _ _ _ h => h, fun _ _ _ h => h, fun _ h => h⟩

theorem trans (h : ChangesOnly touched d d') (h' : ChangesOnly touched d' d'') :
    ChangesOnly touched d d'' where
  home := h'.home.trans h.home
  locked := h'.locked.trans h.locked
  kept place entry hPlace hEntry := h'.kept place entry hPlace (h.kept place entry hPlace hEntry)
  files place bytes hPlace hFile := h.files place bytes hPlace (h'.files place bytes hPlace hFile)
  folders place hFolder := h'.folders place (h.folders place hFolder)

theorem mono (h : ChangesOnly touched d d') (hMore : ∀ place, touched place → more place) :
    ChangesOnly more d d' where
  home := h.home
  locked := h.locked
  kept place entry hPlace := h.kept place entry fun hTouched => hPlace (hMore place hTouched)
  files place bytes hPlace := h.files place bytes fun hTouched => hPlace (hMore place hTouched)
  folders := h.folders

end ChangesOnly

namespace Edits

theorem refl (touched : Place → Prop) (d : Disk) : Edits touched d d :=
  ⟨rfl, rfl, fun _ _ => rfl, fun _ => Iff.rfl⟩

theorem trans (h : Edits touched d d') (h' : Edits touched d' d'') : Edits touched d d'' where
  home := h'.home.trans h.home
  locked := h'.locked.trans h.locked
  same place hPlace := (h'.same place hPlace).trans (h.same place hPlace)
  folders place := (h'.folders place).trans (h.folders place)

theorem mono (h : Edits touched d d') (hMore : ∀ place, touched place → more place) :
    Edits more d d' where
  home := h.home
  locked := h.locked
  same place hPlace := h.same place (fun hTouched => hPlace (hMore place hTouched))
  folders := h.folders

theorem changesOnly (h : Edits touched d d') : ChangesOnly touched d d' where
  home := h.home
  locked := h.locked
  kept place _ hPlace hEntry := (h.same place hPlace).trans hEntry
  files place _ hPlace hFile := (h.same place hPlace).symm.trans hFile
  folders place hFolder := (h.folders place).2 hFolder

end Edits

namespace Rewrites

variable {place : Place}

theorem refl (place : Place) (d : Disk) : Rewrites place d d := ⟨.refl _ d, id⟩

theorem trans (h : Rewrites place d d') (h' : Rewrites place d' d'') : Rewrites place d d'' :=
  ⟨h.toEdits.trans h'.toEdits, fun hEntry => h'.stays (h.stays hEntry)⟩

/-- A file stays a file. -/
theorem file (h : Rewrites place d d') {other : Place} {bytes : ByteArray}
    (hFile : d.entry? other = some (.file bytes)) :
    ∃ bytes', d'.entry? other = some (.file bytes') := by
  by_cases hOther : other = place
  · subst hOther
    obtain ⟨entry, hEntry⟩ := Option.isSome_iff_exists.1 (h.stays (by simp [hFile]))
    cases entry with
    | file bytes' => exact ⟨bytes', hEntry⟩
    | folder =>
      have hFolder := (h.folders other).1 hEntry
      simp [hFile] at hFolder
  · exact ⟨bytes, (h.same other hOther).trans hFile⟩

end Rewrites

/-- The same stands everywhere, whatever the order in which folders are listed. -/
structure Same (d d' : Disk) : Prop where
  home : d'.home = d.home
  locked : d'.locked = d.locked
  entries : ∀ place, d'.entry? place = d.entry? place

theorem Same.edits (h : Same d d') : Edits (fun _ => False) d d' :=
  ⟨h.home, h.locked, fun place _ => h.entries place, fun place => by rw [h.entries]⟩

theorem Same.rewrites (h : Same d d') (place : Place) : Rewrites place d d' :=
  ⟨h.edits.mono fun _ hNone => hNone.elim, fun hEntry => by rwa [h.entries]⟩

/-! ## Paths on a changed disk -/

theorem start_eq (hHome : d'.home = d.home) (path : String) : d'.start path = d.start path := by
  simp only [start, hHome]

theorem locate_eq_of_home (hHome : d'.home = d.home) (path : String) :
    d'.locate path = d.locate path := by
  simp only [locate, start_eq hHome]

theorem walk_mono (hFolders : ∀ place, d.entry? place = some .folder →
      d'.entry? place = some .folder) {pieces : List String} {place found : Place}
    (h : d.walk place pieces = .ok found) : d'.walk place pieces = .ok found := by
  induction pieces generalizing place with
  | nil => exact h
  | cons piece rest ih =>
    simp only [walk, bind, Except.bind] at h ⊢
    cases hEnter : d.enter place with
    | error fault => simp [hEnter] at h
    | ok _ =>
      rw [enter_eq_ok.2 (hFolders place (enter_eq_ok.1 hEnter))]
      simp only [hEnter] at h
      cases hPart : Path.partOf piece with
      | none =>
        simp only [hPart] at h ⊢
        exact ih h
      | some part =>
        cases part with
        | root | here | up =>
          simp only [hPart] at h ⊢
          exact ih h
        | name name =>
          simp only [hPart] at h ⊢
          split at h
          · contradiction
          · next hSize =>
            rw [if_neg hSize]
            exact ih h

/-- The pieces of a path before its last one, the empty ones at its end aside. -/
def piecesBefore (path : String) : List String :=
  ((Path.pieces path).reverse.dropWhile (·.isEmpty)).tail.reverse

/-- Where the folder of a path is found, its target does not change. -/
theorem target_eq (hHome : d'.home = d.home) (hFolders : ∀ place, d.entry? place = some .folder →
      d'.entry? place = some .folder) {path : String} {folder : Place}
    (hWalk : d.walk (d.start path) (piecesBefore path) = .ok folder)
    (hFolder : d.entry? folder = some .folder) : d'.target path = d.target path := by
  have hWalk' := walk_mono hFolders hWalk
  have hEnter := enter_eq_ok.2 hFolder
  have hEnter' := enter_eq_ok.2 (hFolders folder hFolder)
  unfold piecesBefore at hWalk hWalk'
  simp only [target, bind, Except.bind, start_eq hHome, hWalk, hWalk', hEnter, hEnter']

theorem reaches_of_target {path : String} {found : Option Target}
    (h : d.target path = .ok found) :
    ∃ folder, d.walk (d.start path) (piecesBefore path) = .ok folder ∧
      d.entry? folder = some .folder := by
  simp only [target, bind, Except.bind] at h
  split at h
  · contradiction
  · split at h
    · contradiction
    · next folder hWalk =>
      split at h
      · contradiction
      · next hEnter => exact ⟨folder, hWalk, enter_eq_ok.1 hEnter⟩

theorem target_mono (hHome : d'.home = d.home) (hFolders : ∀ place, d.entry? place = some .folder →
      d'.entry? place = some .folder) {path : String} {found : Option Target}
    (h : d.target path = .ok found) : d'.target path = .ok found := by
  obtain ⟨folder, hWalk, hFolder⟩ := reaches_of_target h
  rw [target_eq hHome hFolders hWalk hFolder, h]

/-- What a path names it names still, unless it is touched. -/
theorem find_mono (h : ChangesOnly touched d d') {path : String} {place : Place} {entry : Entry}
    (hFind : d.find path = .ok (place, entry)) (hPlace : ¬ touched place) :
    d'.find path = .ok (place, entry) := by
  obtain ⟨hCheck, hWalk, hEntry⟩ := find_eq_ok.1 hFind
  refine find_eq_ok.2 ⟨hCheck, ?_, h.kept place entry hPlace hEntry⟩
  rw [start_eq h.home]
  exact walk_mono h.folders hWalk

theorem find_folder_mono (h : ChangesOnly touched d d') {path : String} {place : Place}
    (hFind : d.find path = .ok (place, .folder)) : d'.find path = .ok (place, .folder) := by
  obtain ⟨hCheck, hWalk, hEntry⟩ := find_eq_ok.1 hFind
  refine find_eq_ok.2 ⟨hCheck, ?_, h.folders place hEntry⟩
  rw [start_eq h.home]
  exact walk_mono h.folders hWalk

/-- A path names what it named before, where nothing but untouched files changed. -/
theorem find_edits (h : Edits touched d d') {path : String} {place : Place} {entry : Entry}
    (hFind : d'.find path = .ok (place, entry)) (hPlace : ¬ touched place) :
    d.find path = .ok (place, entry) := by
  obtain ⟨hCheck, hWalk, hEntry⟩ := find_eq_ok.1 hFind
  refine find_eq_ok.2 ⟨hCheck, ?_, (h.same place hPlace).symm.trans hEntry⟩
  rw [← start_eq h.home]
  exact walk_mono (fun folder hFolder => (h.folders folder).1 hFolder) hWalk

theorem Same.find_iff (h : Same d d') {path : String} {place : Place} {entry : Entry} :
    d'.find path = .ok (place, entry) ↔ d.find path = .ok (place, entry) :=
  ⟨fun hFind => find_edits h.edits hFind id,
    fun hFind => find_mono h.edits.changesOnly hFind id⟩

theorem find_of_read {path : String} {bytes : ByteArray} (h : d.read path = .ok bytes) :
    d.find path = .ok (d.locate path, .file bytes) := by
  simp only [read, bind, Except.bind] at h
  split at h
  · contradiction
  · next found hFind =>
    split at h
    · next hEntry =>
      obtain rfl := Except.ok.inj h
      rw [hFind, ← locate_of_find hFind, ← hEntry]
    · contradiction

theorem read_of_find {path : String} {place : Place} {bytes : ByteArray}
    (h : d.find path = .ok (place, .file bytes)) : d.read path = .ok bytes := by
  simp [read, h, bind, Except.bind]

theorem readText_of_find {path : String} {place : Place} {bytes : ByteArray}
    (h : d.find path = .ok (place, .file bytes)) :
    d.readText path = match String.fromUTF8? bytes with
      | some text => .ok text
      | none => .error .notText := by
  cases hText : String.fromUTF8? bytes <;>
    simp [readText, read_of_find h, bind, Except.bind, hText]

theorem read_of_readText {path text : String} (h : d.readText path = .ok text) :
    ∃ bytes, d.read path = .ok bytes ∧ String.fromUTF8? bytes = some text := by
  simp only [readText, bind, Except.bind] at h
  split at h
  · contradiction
  · next bytes hRead =>
    split at h
    · next hText => exact ⟨bytes, hRead, by rw [hText, Except.ok.inj h]⟩
    · contradiction

/-- A text that is read names a file at the place of its path. -/
theorem find_of_readText {path text : String} (h : d.readText path = .ok text) :
    ∃ bytes, d.find path = .ok (d.locate path, .file bytes) ∧
      String.fromUTF8? bytes = some text := by
  obtain ⟨bytes, hRead, hText⟩ := read_of_readText h
  exact ⟨bytes, find_of_read hRead, hText⟩

/-- The text of an untouched file. -/
theorem readText_mono (h : ChangesOnly touched d d') {path text : String}
    (hRead : d.readText path = .ok text) (hPlace : ¬ touched (d.locate path)) :
    d'.readText path = .ok text := by
  obtain ⟨bytes, hFind, hText⟩ := find_of_readText hRead
  simp [readText, read_of_find (find_mono h hFind hPlace), hText, bind, Except.bind]

/-! ## Putting something at a place -/

theorem ne_nil_of_isPlace {place : Place} (h : isPlace place = true) : place ≠ [] := by
  rintro rfl
  contradiction

theorem find?_putEntry (place : Place) (entry : Entry) (l : List (Place × Entry)) (other : Place) :
    (putEntry place entry l).find? (fun e => e.1 == other) =
      if other = place then some (place, entry) else l.find? (fun e => e.1 == other) := by
  induction l with
  | nil =>
    by_cases hOther : other = place
    · simp [putEntry, hOther]
    · simp [putEntry, hOther, Ne.symm hOther]
  | cons e rest ih =>
    unfold putEntry
    by_cases he : e.1 = place
    · rw [if_pos he]
      by_cases hOther : other = place
      · simp [hOther]
      · simp [he, hOther, Ne.symm hOther]
    · rw [if_neg he, List.find?_cons, List.find?_cons, ih]
      by_cases hOther : other = place
      · have hSkip : (e.1 == other) = false := beq_false_of_ne (hOther ▸ he)
        rw [hSkip, if_pos hOther]
      · simp [hOther]

theorem entry?_put {place : Place} (entry : Entry) (hPlace : isPlace place = true)
    (other : Place) :
    Disk.entry? (d.put place entry hPlace) other =
      if other = place then some entry else d.entry? other := by
  have hNe := ne_nil_of_isPlace hPlace
  unfold entry?
  rw [put, find?_putEntry]
  by_cases hOther : other = place
  · simp [hOther, hNe]
  · simp [hOther]

/-- A file is put where no folder stands. -/
theorem put_file_edits {place : Place} (bytes : ByteArray) (hPlace : isPlace place = true)
    (hFree : d.entry? place ≠ some .folder) :
    Edits (· = place) d (d.put place (.file bytes) hPlace) where
  home := rfl
  locked := rfl
  same other hOther := by rw [entry?_put, if_neg hOther]
  folders other := by
    rw [entry?_put]
    split
    · next hOther => simpa [hOther] using hFree
    · exact Iff.rfl

/-- A folder is put where nothing stands. -/
theorem put_folder_changesOnly {place : Place} (hPlace : isPlace place = true)
    (hFree : d.entry? place = none) :
    ChangesOnly (fun _ => False) d (d.put place .folder hPlace) where
  home := rfl
  locked := rfl
  kept other entry _ hEntry := by
    have hOther : other ≠ place := by
      rintro rfl
      simp [hFree] at hEntry
    rw [entry?_put, if_neg hOther, hEntry]
  files other bytes _ hFile := by
    rw [entry?_put] at hFile
    split at hFile
    · cases hFile
    · exact hFile
  folders other hFolder := by
    rw [entry?_put]
    split
    · rfl
    · exact hFolder

/-! ## Operations on files -/

/-- What comes of a write, where its target is known. -/
theorem write_of_target {path : String} {t : Target} (hTarget : d.target path = .ok (some t))
    (hSlash : t.slash = false) (bytes : ByteArray) :
    d.write path bytes =
      if d.entry? t.place = some .folder then .error .isFolder
      else if d.isLocked t.place then .error .notPermitted
      else .ok (d.put t.place (.file bytes) t.isPlace_place) := by
  simp only [write, hTarget, bind, Except.bind, hSlash, Bool.false_eq_true, if_false]
  cases d.entry? t.place with
  | none => simp
  | some entry => cases entry <;> simp

/-- What it takes to write a file, and what comes of it. -/
theorem put_of_write {path : String} {bytes : ByteArray} (h : d.write path bytes = .ok d') :
    ∃ t, d.target path = .ok (some t) ∧ t.slash = false ∧ d.entry? t.place ≠ some .folder ∧
      d.isLocked t.place = false ∧ d' = d.put t.place (.file bytes) t.isPlace_place := by
  cases hTarget : d.target path with
  | error fault => simp [write, hTarget, bind, Except.bind] at h
  | ok target =>
    cases target with
    | none => simp [write, hTarget, bind, Except.bind] at h
    | some t =>
      cases hSlash : t.slash with
      | true =>
        simp only [write, hTarget, bind, Except.bind, hSlash, if_true] at h
        split at h <;> contradiction
      | false =>
        rw [write_of_target hTarget hSlash] at h
        split at h
        · contradiction
        · next hFolder =>
          split at h
          · contradiction
          · next hLocked =>
            exact ⟨t, rfl, hSlash, hFolder, by simpa using hLocked, (Except.ok.inj h).symm⟩

/-- A write changes the file at the place of its path, which then holds what was written. -/
theorem edits_of_write {path : String} {bytes : ByteArray} (h : d.write path bytes = .ok d') :
    Edits (· = d.locate path) d d' ∧ d'.find path = .ok (d.locate path, .file bytes) := by
  obtain ⟨t, hTarget, hSlash, hFree, -, rfl⟩ := put_of_write h
  have hPlace := locate_of_target hTarget hSlash
  have hEdits := put_file_edits bytes t.isPlace_place hFree
  have hTarget' := target_mono hEdits.home (fun place hAt => (hEdits.folders place).2 hAt) hTarget
  have hEntry := entry?_put (d := d) (.file bytes) t.isPlace_place t.place
  rw [if_pos rfl] at hEntry
  rw [← hPlace]
  exact ⟨hEdits, find_of_target hTarget' hSlash hEntry⟩

/-- A write leaves a file where it was made. -/
theorem rewrites_of_write {path : String} {bytes : ByteArray} (h : d.write path bytes = .ok d') :
    Rewrites (d.locate path) d d' := by
  obtain ⟨hEdits, hFind⟩ := edits_of_write h
  exact ⟨hEdits, fun _ => by simp [(find_eq_ok.1 hFind).2.2]⟩

theorem rewrites_of_append {path : String} {bytes : ByteArray} (h : d.append path bytes = .ok d') :
    Rewrites (d.locate path) d d' := by
  unfold append at h
  split at h <;> exact rewrites_of_write h

/-- A removal takes away the file at the place of its path. -/
theorem edits_of_remove {path : String} (h : d.remove path = .ok d') :
    Edits (· = d.locate path) d d' ∧ d'.has path = false := by
  obtain ⟨place, bytes, hFind, hFile, rfl⟩ := eq_erase_of_remove h
  have hPlace := locate_of_find hFind
  constructor
  · rw [← hPlace]
    refine ⟨rfl, rfl, fun other hOther => entry?_erase_of_ne hOther, fun other => ?_⟩
    rw [entry?_erase hFile, and_iff_left_iff_imp]
    rintro hFolder rfl
    simp [hFile] at hFolder
  · rw [Bool.eq_false_iff]
    intro hHas
    obtain ⟨found, entry, hFound⟩ := has_iff.1 hHas
    obtain ⟨hOld, hNe⟩ := (find_erase hFile).1 hFound
    rw [hFind] at hOld
    exact hNe (Prod.mk.inj (Except.ok.inj hOld)).1.symm

/-- A file that could be removed can be removed still. -/
theorem remove_mono (h : ChangesOnly touched d d') {path : String} {gone : Disk}
    (hRemove : d.remove path = .ok gone) (hPlace : ¬ touched (d.locate path)) :
    ∃ gone', d'.remove path = .ok gone' := by
  obtain ⟨t, bytes, hTarget, hSlash, hEntry, hUnlocked, -⟩ := remove_eq_ok.1 hRemove
  rw [← locate_of_target hTarget hSlash] at hPlace
  refine ⟨_, remove_eq_ok.2 ⟨t, bytes, target_mono h.home h.folders hTarget, hSlash,
    h.kept _ _ hPlace hEntry, ?_, rfl⟩⟩
  rw [isLocked, h.locked]
  exact hUnlocked

/-- A file that was written can be removed. -/
theorem remove_of_write {path : String} {bytes : ByteArray} (h : d.write path bytes = .ok d') :
    ∃ gone, d'.remove path = .ok gone := by
  obtain ⟨hEdits, hFind⟩ := edits_of_write h
  obtain ⟨t, hTarget, hSlash, -, hUnlocked, -⟩ := put_of_write h
  have hTarget' := target_mono hEdits.home (fun place hAt => (hEdits.folders place).2 hAt) hTarget
  have hEntry := (find_eq_ok.1 hFind).2.2
  rw [← locate_of_target hTarget hSlash] at hEntry
  refine ⟨_, remove_eq_ok.2 ⟨t, bytes, hTarget', hSlash, hEntry, ?_, rfl⟩⟩
  rw [isLocked, hEdits.locked]
  exact hUnlocked

/-- What is gone does not come back, where nothing but files elsewhere change. -/
theorem not_has_edits (h : Edits touched d d') {path : String} (hGone : d.has path = false)
    (hPlace : ¬ touched (d.locate path)) : d'.has path = false := by
  rw [Bool.eq_false_iff] at hGone ⊢
  intro hHas
  obtain ⟨place, entry, hFind⟩ := has_iff.1 hHas
  have hFound := locate_of_find hFind
  rw [locate_eq_of_home h.home] at hFound
  exact hGone (has_iff.2 ⟨place, entry, find_edits h hFind (hFound ▸ hPlace)⟩)

/-! ## Making folders -/

theorem makeFolder_changesOnly {path : String} (h : d.makeFolder path = .ok d') :
    ChangesOnly (fun _ => False) d d' := by
  simp only [makeFolder, bind, Except.bind] at h
  split at h
  · contradiction
  · split at h
    · contradiction
    · next t _ =>
      split at h
      · contradiction
      · next hFree =>
        obtain rfl := Except.ok.inj h
        exact put_folder_changesOnly t.isPlace_place hFree

theorem ensureFolder_changesOnly (d : Disk) (path : String) :
    ChangesOnly (fun _ => False) d (d.ensureFolder path).2 := by
  unfold ensureFolder
  split
  · next hMake => exact makeFolder_changesOnly hMake
  · split <;> exact .refl _ d

theorem makeEach_changesOnly (d : Disk) (paths : List String) :
    ChangesOnly (fun _ => False) d (d.makeEach paths).2 := by
  induction paths with
  | nil => exact .refl _ d
  | cons path parents ih =>
    have hEnsure := ensureFolder_changesOnly d path
    unfold makeEach
    split
    · exact .refl _ d
    · split
      · split
        · next d' hParents =>
          rw [hParents] at ih
          exact ih.trans (ensureFolder_changesOnly d' path)
        · exact ih
      · exact hEnsure

/-- Making folders changes no file. -/
theorem makeFolders_changesOnly (d : Disk) (path : String) :
    ChangesOnly (fun _ => False) d (d.makeFolders path).2 :=
  makeEach_changesOnly d _

end SessionReplay.Disk
