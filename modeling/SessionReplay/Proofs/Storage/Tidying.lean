import SessionReplay.Proofs.Storage.Making

/-!
# Files that go and folders that come

* `Disk.Tidies`: files go from some places, folders come to others, and nothing else changes.
* `Disk.makeFolders_tidies`: a folder is made with some of those above it.
* `Disk.tidies_of_remove`: a file is removed.
-/

namespace SessionReplay.Disk

open Storage SessionReplay.Path

variable {d d' d'' : Disk} {gone gone' made made' : Place → Prop} {place : Place} {path : String}

/-- Whether a file stands at a place. -/
def holdsFile (d : Disk) (place : Place) : Bool :=
  match d.entry? place with
  | some (.file _) => true
  | _ => false

theorem holdsFile_iff : d.holdsFile place = true ↔ ∃ bytes, d.entry? place = some (.file bytes) := by
  unfold holdsFile
  split
  · next bytes hFile => simp [hFile]
  · next hNone => simpa using hNone

theorem holdsFile_of_find {bytes : ByteArray} (h : d.find path = .ok (place, .file bytes)) :
    d.holdsFile (d.locate path) = true := by
  rw [← locate_of_find h]
  exact holdsFile_iff.2 ⟨bytes, (find_eq_ok.1 h).2.2⟩

/-- Files may go from the places of one kind, folders may come to the free places of another, and
nothing else changes. -/
structure Tidies (gone made : Place → Prop) (d d' : Disk) : Prop where
  home : d'.home = d.home
  locked : d'.locked = d.locked
  entries : ∀ place, d'.entry? place = d.entry? place ∨
    (gone place ∧ d.holdsFile place = true ∧ d'.entry? place = none) ∨
    (made place ∧ d.entry? place = none ∧ d'.entry? place = some .folder)

namespace Tidies

theorem refl (gone made : Place → Prop) (d : Disk) : Tidies gone made d d :=
  ⟨rfl, rfl, fun _ => .inl rfl⟩

theorem mono (h : Tidies gone made d d') (hGone : ∀ place, gone place → gone' place)
    (hMade : ∀ place, made place → made' place) : Tidies gone' made' d d' where
  home := h.home
  locked := h.locked
  entries place := (h.entries place).imp_right fun hChange =>
    hChange.imp (And.imp_left (hGone place)) (And.imp_left (hMade place))

/-- One after the other, where no folder comes to a place that a file went from. -/
theorem trans (h : Tidies gone made d d') (h' : Tidies gone made' d' d'')
    (hMade : ∀ place, made' place → made place ∧ ¬ gone place) : Tidies gone made d d'' where
  home := h'.home.trans h.home
  locked := h'.locked.trans h.locked
  entries place := by
    rcases h'.entries place with hSame' | ⟨hGone', hFile', hNone'⟩ | ⟨hMade', hNone', hFolder'⟩
    · rw [hSame']
      exact h.entries place
    · obtain ⟨bytes, hBytes⟩ := holdsFile_iff.1 hFile'
      rcases h.entries place with hSame | ⟨-, -, hNone⟩ | ⟨-, -, hFolder⟩
      · exact .inr (.inl ⟨hGone', holdsFile_iff.2 ⟨bytes, hSame ▸ hBytes⟩, hNone'⟩)
      · rw [hNone] at hBytes
        cases hBytes
      · rw [hFolder] at hBytes
        cases hBytes
    · obtain ⟨hMade, hNotGone⟩ := hMade place hMade'
      rcases h.entries place with hSame | ⟨hGone, -, -⟩ | ⟨-, -, hFolder⟩
      · exact .inr (.inr ⟨hMade, hSame ▸ hNone', hFolder'⟩)
      · exact absurd hGone hNotGone
      · rw [hFolder] at hNone'
        cases hNone'

/-- Every file stood there before. -/
theorem holdsFile (h : Tidies gone made d d') (hFile : d'.holdsFile place = true) :
    d.holdsFile place = true ∧ d'.entry? place = d.entry? place := by
  obtain ⟨bytes, hBytes⟩ := holdsFile_iff.1 hFile
  rcases h.entries place with hSame | ⟨-, -, hNone⟩ | ⟨-, -, hFolder⟩
  · exact ⟨holdsFile_iff.2 ⟨bytes, hSame ▸ hBytes⟩, hSame⟩
  · rw [hNone] at hBytes
    cases hBytes
  · rw [hFolder] at hBytes
    cases hBytes

/-- Where no folder comes, nothing comes. -/
theorem none_of_none (h : Tidies gone (fun _ => False) d d') (hNone : d.entry? place = none) :
    d'.entry? place = none := by
  rcases h.entries place with hSame | ⟨-, -, hNone'⟩ | ⟨hMade, -, -⟩
  · rw [hSame, hNone]
  · exact hNone'
  · exact hMade.elim

end Tidies

/-! ## Removing -/

theorem tidies_of_remove (h : d.remove path = .ok d') :
    Tidies (· = d.locate path) (fun _ => False) d d' := by
  obtain ⟨place, bytes, hFind, hFile, rfl⟩ := eq_erase_of_remove h
  obtain rfl := locate_of_find hFind
  refine ⟨rfl, rfl, fun other => ?_⟩
  by_cases hOther : other = d.locate path
  · subst hOther
    exact .inr (.inl ⟨rfl, holdsFile_of_find hFind, entry?_erase_self (ne_nil_of_file hFile)⟩)
  · exact .inl (entry?_erase_of_ne hOther)

/-! ## Making folders -/

/-- A folder is made at the place of its path, even if a slash stands behind it. -/
theorem place_of_targetIn {t : Target}
    (hReach : d.reach (d.start path) (piecesBefore path) = .ok t.folder)
    (hTarget : targetIn t.folder path = .ok (some t)) : t.place = d.locate path := by
  have hFolder := eq_of_walk (reach_eq_ok.1 hReach).1
  rw [locate_eq, ← filterMap_core, (core_of_targetIn hTarget).1, List.filterMap_append,
    List.foldl_append, ← hFolder]
  simp [partOf_of_isName t.named, follow, Target.place]

theorem tidies_of_makeFolder (h : d.makeFolder path = .ok d') :
    Tidies (fun _ => False) (· = d.locate path) d d' := by
  obtain ⟨t, -, hReach, hTarget, hFree, rfl⟩ := put_of_makeFolder h
  refine ⟨rfl, rfl, fun other => ?_⟩
  rw [entry?_put]
  by_cases hOther : other = t.place
  · subst hOther
    exact .inr (.inr ⟨place_of_targetIn hReach hTarget, hFree, if_pos rfl⟩)
  · exact .inl (if_neg hOther)

theorem ensureFolder_tidies (d : Disk) (path : String) :
    Tidies (fun _ => False) (· = d.locate path) d (d.ensureFolder path).2 := by
  unfold ensureFolder
  split
  · next hMake => exact tidies_of_makeFolder hMake
  · split <;> exact .refl _ _ d

/-- The place of one of the paths. -/
def IsPlaceOf (d : Disk) (paths : List String) (place : Place) : Prop :=
  ∃ path ∈ paths, place = d.locate path

theorem makeEach_tidies (d : Disk) (paths : List String) :
    Tidies (fun _ => False) (d.IsPlaceOf paths) d (d.makeEach paths).2 := by
  induction paths with
  | nil => exact .refl _ _ d
  | cons path parents ih =>
    have hFirst (place : Place) (h : place = d.locate path) : d.IsPlaceOf (path :: parents) place :=
      ⟨path, by simp, h⟩
    have hParents : Tidies (fun _ => False) (d.IsPlaceOf (path :: parents)) d
        (d.makeEach parents).2 :=
      ih.mono (fun _ => id) fun _ ⟨up, hUp, h⟩ => ⟨up, List.mem_cons_of_mem _ hUp, h⟩
    have hEnsure := (ensureFolder_tidies d path).mono (fun _ => id) hFirst
    unfold makeEach
    split
    · exact .refl _ _ d
    · split
      · split
        · next d' hMade =>
          rw [hMade] at hParents
          refine hParents.trans (ensureFolder_tidies d' path) fun place hPlace => ⟨?_, id⟩
          rw [locate_eq_of_home hParents.home] at hPlace
          exact hFirst place hPlace
        · exact hParents
      · exact hEnsure

/-- Folders are made at the places of a path and of those above it. -/
theorem makeFolders_tidies (d : Disk) (path : String) :
    Tidies (fun _ => False) (d.IsPlaceOf (upwards path)) d (d.makeFolders path).2 :=
  makeEach_tidies d _

end SessionReplay.Disk
