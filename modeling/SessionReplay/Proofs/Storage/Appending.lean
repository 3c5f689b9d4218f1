import SessionReplay.Proofs.Storage.Again
import SessionReplay.Proofs.Storage.Tidying

/-!
# Files that are appended to

* `Disk.Writable`: something can be put behind what stands in a file.
* `Disk.contents`: what stands in a file, nothing if there is none.
* `Disk.append_of_writable`: what is appended stands behind what was there.
* `Disk.Spares`: a change that leaves a file alone, which holds what it held and can be appended to
  as before.
-/

namespace SessionReplay.Disk

open Storage SessionReplay.Path

variable {d d' d'' : Disk} {path : String}

/-- A file can be opened, or made, to put something behind what stands in it. -/
def Writable (d : Disk) (path : String) : Prop := (d.append path .empty).isOk = true

instance (d : Disk) (path : String) : Decidable (d.Writable path) :=
  inferInstanceAs (Decidable (_ = true))

/-- The bytes of a file, none if there is no file. -/
def contents (d : Disk) (path : String) : ByteArray :=
  match d.read path with
  | .ok bytes => bytes
  | .error _ => .empty

theorem append_eq (d : Disk) (path : String) (bytes : ByteArray) :
    d.append path bytes = d.write path (d.contents path ++ bytes) := by
  unfold append contents
  cases d.read path with
  | ok old => rfl
  | error fault => rw [ByteArray.empty_append]

theorem writable_iff : d.Writable path ↔ ∃ t, d.target path = .ok (some t) ∧ t.slash = false ∧
    d.entry? t.place ≠ some .folder ∧ d.isLocked t.place = false := by
  rw [Writable, append_eq]
  constructor
  · intro h
    cases hWrite : d.write path (d.contents path ++ .empty) with
    | error fault =>
      rw [hWrite] at h
      contradiction
    | ok d' =>
      obtain ⟨t, hTarget, hSlash, hFree, hUnlocked, -⟩ := put_of_write hWrite
      exact ⟨t, hTarget, hSlash, hFree, hUnlocked⟩
  · rintro ⟨t, hTarget, hSlash, hFree, hUnlocked⟩
    rw [write_of_target hTarget hSlash, if_neg hFree, hUnlocked]
    rfl

/-- The bytes of an entry, none unless it is a file. -/
def bytesOf : Option Entry → ByteArray
  | some (.file bytes) => bytes
  | some .folder | none => .empty

theorem contents_of_target {t : Target} (hTarget : d.target path = .ok (some t))
    (hSlash : t.slash = false) : d.contents path = bytesOf (d.entry? t.place) := by
  unfold contents
  cases hRead : d.read path with
  | ok bytes =>
    have hEntry := (find_eq_ok.1 (find_of_read hRead)).2.2
    rw [← locate_of_target hTarget hSlash] at hEntry
    rw [hEntry]
    rfl
  | error fault =>
    cases hEntry : d.entry? t.place with
    | none => rfl
    | some entry =>
      cases entry with
      | folder => rfl
      | file bytes =>
        have hFile := read_of_find (find_of_target hTarget hSlash hEntry)
        simp [hFile] at hRead

theorem contents_of_find {place : Place} {bytes : ByteArray}
    (h : d.find path = .ok (place, .file bytes)) : d.contents path = bytes := by
  simp only [contents, read_of_find h]

/-- **What is appended stands behind what was there.** -/
theorem append_of_writable (h : d.Writable path) (bytes : ByteArray) :
    ∃ d', d.append path bytes = .ok d' ∧ d'.Writable path ∧
      d'.contents path = d.contents path ++ bytes := by
  obtain ⟨t, hTarget, hSlash, hFree, hUnlocked⟩ := writable_iff.1 h
  obtain ⟨d', hWrite⟩ : ∃ d', d.append path bytes = .ok d' := by
    rw [append_eq, write_of_target hTarget hSlash, if_neg hFree, hUnlocked]
    exact ⟨_, rfl⟩
  refine ⟨d', hWrite, ?_, ?_⟩
  · rw [append_eq] at hWrite
    obtain ⟨hEdits, -⟩ := edits_of_write hWrite
    have hTarget' := target_mono hEdits.home (fun place => (hEdits.folders place).2) hTarget
    refine writable_iff.2 ⟨t, hTarget', hSlash, ?_, ?_⟩
    · rwa [Ne, hEdits.folders]
    · rwa [isLocked, hEdits.locked]
  · rw [append_eq] at hWrite
    exact contents_of_find (edits_of_write hWrite).2

/-! ## Files that are left alone -/

/-- A change that leaves what stands at the place of a path alone, and takes no folder away. -/
structure Spares (path : String) (d d' : Disk) : Prop where
  home : d'.home = d.home
  locked : d'.locked = d.locked
  folders : ∀ place, d.entry? place = some .folder → d'.entry? place = some .folder
  same : d'.entry? (d.locate path) = d.entry? (d.locate path)

namespace Spares

theorem refl (path : String) (d : Disk) : Spares path d d := ⟨rfl, rfl, fun _ => id, rfl⟩

theorem trans (h : Spares path d d') (h' : Spares path d' d'') : Spares path d d'' where
  home := h'.home.trans h.home
  locked := h'.locked.trans h.locked
  folders place hFolder := h'.folders place (h.folders place hFolder)
  same := by
    have hSame := h'.same
    rw [locate_eq_of_home h.home] at hSame
    exact hSame.trans h.same

theorem of_edits {touched : Place → Prop} (h : Edits touched d d')
    (hPlace : ¬ touched (d.locate path)) : Spares path d d' where
  home := h.home
  locked := h.locked
  folders place := (h.folders place).2
  same := h.same _ hPlace

/-- Folders that are made elsewhere. -/
theorem of_makeFolders {folder : String} (hPlace : ¬ d.IsPlaceOf (upwards folder) (d.locate path)) :
    Spares path d (d.makeFolders folder).2 where
  home := (d.makeFolders_changesOnly folder).home
  locked := (d.makeFolders_changesOnly folder).locked
  folders := (d.makeFolders_changesOnly folder).folders
  same := by
    have hEntries := (d.makeFolders_tidies folder).entries (d.locate path)
    rcases hEntries with hSame | ⟨hNone, -⟩ | ⟨hMade, -⟩
    · exact hSame
    · exact hNone.elim
    · exact absurd hMade hPlace

theorem entry?_place (h : Spares path d d') {t : Target} (hTarget : d.target path = .ok (some t))
    (hSlash : t.slash = false) : d'.entry? t.place = d.entry? t.place := by
  rw [locate_of_target hTarget hSlash]
  exact h.same

theorem writable (h : Spares path d d') (hWritable : d.Writable path) : d'.Writable path := by
  obtain ⟨t, hTarget, hSlash, hFree, hUnlocked⟩ := writable_iff.1 hWritable
  refine writable_iff.2 ⟨t, target_mono h.home h.folders hTarget, hSlash, ?_, ?_⟩
  · rwa [h.entry?_place hTarget hSlash]
  · rwa [isLocked, h.locked]

theorem contents (h : Spares path d d') (hWritable : d.Writable path) :
    d'.contents path = d.contents path := by
  obtain ⟨t, hTarget, hSlash, -, -⟩ := writable_iff.1 hWritable
  have hTarget' := target_mono h.home h.folders hTarget
  rw [contents_of_target hTarget' hSlash, h.entry?_place hTarget hSlash,
    contents_of_target hTarget hSlash]

end Spares

end SessionReplay.Disk
