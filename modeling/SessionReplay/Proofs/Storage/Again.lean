import SessionReplay.Proofs.Storage.Making

/-!
# What fails once more

What could not be made or written cannot be made or written later, whatever was written to files
elsewhere. The fault is the same, except that folders made the first time may let the second one see
that something is in the way that is no folder.

* `Disk.reach_error_stays`, `Disk.ensureFolder_error_stays`: a fault stays, unless something is
  missing.
* `Disk.Recurs`, `Disk.makeFolders_again`: folders that could not be made.
* `Disk.write_error_iff`: whether a file can be written depends on folders only.
* `Disk.write_error_stays`: files that could not be written.
-/

namespace SessionReplay.Disk

open Storage SessionReplay.Path

variable {d d' d'' : Disk} {place : Place} {path : String} {fault : Fault}
variable {up : String} {before : List String} {last : String}

/-! ## Faults that stay -/

/-- A file that is in the way stays there. -/
theorem enter_error_stays (h : d.Rewrites place d') {other : Place}
    (hEnter : d.enter other = .error fault) (hFault : fault ≠ .notFound) :
    d'.enter other = .error fault := by
  unfold enter at hEnter
  split at hEnter
  · contradiction
  · next hFile =>
    obtain rfl := Except.error.inj hEnter
    obtain ⟨bytes, hFile'⟩ := h.file hFile
    simp only [enter, hFile']
  · exact absurd (Except.error.inj hEnter).symm hFault

theorem walk_error_stays (h : d.Rewrites place d') {origin : Place} {pieces : List String}
    (hWalk : d.walk origin pieces = .error fault) (hFault : fault ≠ .notFound) :
    d'.walk origin pieces = .error fault := by
  induction pieces generalizing origin with
  | nil => contradiction
  | cons piece rest ih =>
    rw [walk_cons] at hWalk ⊢
    cases hEnter : d.enter origin with
    | error other =>
      rw [hEnter] at hWalk
      obtain rfl : other = fault := Except.error.inj hWalk
      rw [enter_error_stays h hEnter hFault]
      rfl
    | ok _ =>
      rw [enter_eq_ok.2 ((h.folders origin).2 (enter_eq_ok.1 hEnter))]
      rw [hEnter] at hWalk
      simp only [Except.bind] at hWalk ⊢
      cases hNext : next origin piece with
      | error other =>
        rw [hNext] at hWalk
        exact hWalk
      | ok found =>
        rw [hNext] at hWalk
        exact ih hWalk

theorem reach_error_stays (h : d.Rewrites place d') {origin : Place} {pieces : List String}
    (hReach : d.reach origin pieces = .error fault) (hFault : fault ≠ .notFound) :
    d'.reach origin pieces = .error fault := by
  simp only [reach, bind, Except.bind] at hReach ⊢
  cases hWalk : d.walk origin pieces with
  | error other =>
    rw [hWalk] at hReach
    obtain rfl : other = fault := Except.error.inj hReach
    rw [walk_error_stays h hWalk hFault]
  | ok found =>
    rw [walk_mono (fun other hFolder => (h.folders other).2 hFolder) hWalk]
    simp only [hWalk] at hReach ⊢
    cases hEnter : d.enter found with
    | error other =>
      simp only [hEnter] at hReach
      obtain rfl : other = fault := Except.error.inj hReach
      rw [enter_error_stays h hEnter hFault]
    | ok _ => simp [hEnter] at hReach

/-- Where the folder above is missing or the path itself is wrong, the refusal is not that
something is missing. -/
theorem makeFolder_error_stays (h : d.Rewrites place d') (hMake : d.makeFolder path = .error fault)
    (hFault : fault ≠ .notFound) : d'.makeFolder path = .error fault := by
  have hFolders : ∀ other, d.entry? other = some .folder → d'.entry? other = some .folder :=
    fun other hFolder => (h.folders other).2 hFolder
  rw [makeFolder_eq_error] at hMake ⊢
  cases hMake with
  | path hCheck => exact .path hCheck
  | above hCheck hReach =>
    refine .above hCheck ?_
    rw [start_eq h.home]
    exact reach_error_stays h hReach hFault
  | name hCheck hReach hName =>
    rw [← start_eq h.home] at hReach
    exact .name hCheck (reach_mono hFolders hReach) hName
  | unnamed hCheck hReach hName =>
    rw [← start_eq h.home] at hReach
    exact .unnamed hCheck (reach_mono hFolders hReach) hName
  | @taken folder t hCheck hReach hName hEntry =>
    rw [← start_eq h.home] at hReach
    refine .taken hCheck (reach_mono hFolders hReach) hName ?_
    obtain ⟨entry, hEntry⟩ := Option.isSome_iff_exists.1 hEntry
    cases entry with
    | folder => rw [hFolders t.place hEntry]; rfl
    | file bytes =>
      obtain ⟨bytes', hFile⟩ := h.file hEntry
      rw [hFile]
      rfl

theorem ensureFolder_error_stays (h : d.Rewrites place d')
    (hMake : d.ensureFolder path = (.error fault, d'')) (hFault : fault ≠ .notFound) :
    d'.ensureFolder path = (.error fault, d') := by
  obtain ⟨hMake, hFolder, -⟩ := ensureFolder_eq_error.1 hMake
  refine ensureFolder_eq_error.2 ⟨makeFolder_error_stays h hMake hFault, ?_, rfl⟩
  rw [isFolder_edits h.toEdits, hFolder]

/-! ## Folders that could not be made -/

/-- The fault when folders are made a second time: the same, or what is there is no folder. -/
def Recurs (first second : Fault) : Prop :=
  second = first ∨ first = .alreadyExists ∧ second = .notFolder

/-- The folders above could not be made again: neither can this one. -/
theorem again_of_up {first second : Fault} (hStart : d.entry? (d.start path) = some .folder)
    (hPath : path ≠ "") (hCheck : checkPath path = .ok ()) (hParent : parent? path = some up)
    (hCore : core (pieces path) = before ++ [last]) (hBefore : core (pieces up) = core before)
    (hAgain : d.makeFolders up = (.error second, d)) (hRecurs : Recurs first second) :
    ∃ third, d.makeFolders path = (.error third, d) ∧ Recurs first third := by
  have hUp := ascent hParent
  rw [← start_up d hUp] at hStart
  have hNe : up ≠ "" := by
    rintro rfl
    simp [makeFolders_empty] at hAgain
  cases hReach : d.reach (d.start up) (pieces up) with
  | ok folder => simp [makeFolders_of_reach hUp hCheck hReach] at hAgain
  | error fault =>
    have hPiecesBefore : d.reach (d.start path) (piecesBefore path) = .error fault := by
      rcases reach_piecesBefore d hUp hCore hBefore with hSame | ⟨-, hMore⟩
      · rw [hSame, hReach]
      · rw [hMore, hReach]
        rfl
    have hPathReach : d.reach (d.start path) (pieces path) = .error fault := by
      rw [reach_path d hUp hCore hBefore, hReach]
      rfl
    have hFolder := not_isFolder_of_reach hPathReach
    have hRefusal : Refusal d path fault := .above hCheck hPiecesBefore
    -- only where something is missing the folders above are tried once more
    by_cases hFault : fault = .notFound
    · subst hFault
      have hEnsure : d.ensureFolder path = (.error .notFound, d) :=
        ensureFolder_eq_error.2 ⟨makeFolder_eq_error.2 hRefusal, hFolder, rfl⟩
      refine ⟨second, ?_, hRecurs⟩
      rw [makeFolders_eq d hPath, hEnsure, hParent]
      simp only [hAgain]
    · refine ⟨fault, makeFolders_of_refusal hPath hFolder hRefusal hFault, ?_⟩
      have hUpFolder := not_isFolder_of_reach hReach
      have hUpCheck := checkPath_above hUp.above hNe hCheck
      rcases refusal_of_reach hStart hUp.trimmed hUpCheck hReach hFault with hSame | ⟨hThere, rfl⟩
      · have hFirst := makeFolders_of_refusal hNe hUpFolder hSame hFault
        rw [hAgain] at hFirst
        obtain rfl : second = fault := by simpa using hFirst
        exact hRecurs
      · have hFirst := makeFolders_of_refusal hNe hUpFolder hThere (by simp)
        rw [hAgain] at hFirst
        obtain rfl : second = .alreadyExists := by simpa using hFirst
        rcases hRecurs with hSame | ⟨-, hOther⟩
        · exact .inr ⟨hSame.symm, rfl⟩
        · contradiction

/-- The folders above are there, but this one could not be made: it cannot be made again. -/
theorem again_of_itself (hStart : d.entry? (d.start path) = some .folder)
    (hPath : path ≠ "") (hParent : parent? path = some up)
    (hCore : core (pieces path) = before ++ [last]) (hBefore : core (pieces up) = core before)
    (hMade : d.makeFolders up = (.ok (), d))
    (hMake : d.ensureFolder path = (.error fault, d)) (hRewrites : d.Rewrites place d')
    (hPlace : IsTrimmed path ∨ place ≠ d.locate path) :
    d'.makeFolders path = (.error fault, d') := by
  by_cases hFault : fault = .notFound
  · subst hFault
    obtain ⟨hMissing, -, -⟩ := ensureFolder_eq_error.1 hMake
    obtain ⟨hCheck, hAbove⟩ := checkPath_of_missing hPath hMissing
    have hUp := ascent hParent
    rw [← start_up d hUp] at hStart
    obtain ⟨folder, hReach⟩ := reach_of_makeFolders hStart hMade
    have hFolders : ∀ other, d.entry? other = some .folder → d'.entry? other = some .folder :=
      fun other hFolder => (hRewrites.folders other).2 hFolder
    -- something is missing although the folder above is there: the path ends with dots, and what
    -- stands before them is the folder that is to be made
    rcases core_piecesBefore hCore with hSame | ⟨hMore, hUntrimmed⟩
    · rw [reach_congr (hSame.trans hBefore.symm), ← start_up d hUp, hReach] at hAbove
      contradiction
    · rw [reach_congr hMore] at hAbove
      have hOther : place ≠ d.locate path := hPlace.resolve_left hUntrimmed
      obtain ⟨hNext, hNothing⟩ := (reach_missing_iff hUp hCore hBefore hReach).1 hAbove
      rw [← start_eq hRewrites.home] at hReach
      have hReach' := reach_mono hFolders hReach
      rw [← hRewrites.same _ (Ne.symm hOther)] at hNothing
      rw [← locate_eq_of_home hRewrites.home] at hNext hNothing
      have hAbove' := (reach_missing_iff hUp hCore hBefore hReach').2 ⟨hNext, hNothing⟩
      have hFolder' := not_isFolder_of_reach hAbove'
      rw [← reach_congr hMore] at hAbove'
      have hEnsure : d'.ensureFolder path = (.error .notFound, d') :=
        ensureFolder_eq_error.2
          ⟨makeFolder_eq_error.2 (.above hCheck hAbove'), hFolder', rfl⟩
      rw [makeFolders_eq d' hPath, hEnsure, hParent]
      simp only [makeFolders_of_reach hUp hCheck hReach', hEnsure]
  · exact makeFolders_of_ensureFolder hPath (ensureFolder_error_stays hRewrites hMake hFault)
      (by simpa using hFault)

/-- **What could not be made cannot be made again**, whatever is written to a file, unless that
file is the folder itself. The fault recurs. -/
theorem makeFolders_again (hStart : d.entry? (d.start path) = some .folder)
    (hMake : d.makeFolders path = (.error fault, d')) (hRewrites : d'.Rewrites place d'')
    (hPlace : IsTrimmed path ∨ place ≠ d.locate path) :
    ∃ again, d''.makeFolders path = (.error again, d'') ∧ Recurs fault again := by
  induction path using upInduction generalizing d' fault with
  | step path ih =>
    have hPath : path ≠ "" := by
      rintro rfl
      simp [makeFolders_empty] at hMake
    have hChange := makeFolders_changesOnly d path
    rw [hMake] at hChange
    have hStart' : d'.entry? (d'.start path) = some .folder := by
      rw [start_eq hChange.home]
      exact hChange.folders _ hStart
    have hStart'' : d''.entry? (d''.start path) = some .folder := by
      rw [start_eq hRewrites.home]
      exact (hRewrites.folders _).2 hStart'
    cases obstacle hStart hPath hMake with
    | here hEnsure hFault =>
      have hAgain := ensureFolder_error_stays hRewrites hEnsure hFault
      exact ⟨fault, makeFolders_of_ensureFolder hPath hAgain (by simpa using hFault), .inl rfl⟩
    | above hCheck hParent hCore hBefore hUp =>
      have hAscent := ascent hParent
      rw [← start_up d hAscent] at hStart
      obtain ⟨again, hAgain, hRecurs⟩ := ih _ hParent hStart hUp hRewrites (.inl hAscent.trimmed)
      exact again_of_up hStart'' hPath hCheck hParent hCore hBefore hAgain hRecurs
    | last hParent hCore hBefore hUp hEnsure =>
      have hUp' := makeFolders_of_ok hUp rfl fun _ hFolder => hFolder
      rw [← locate_eq_of_home hChange.home] at hPlace
      exact ⟨fault, again_of_itself hStart' hPath hParent hCore hBefore hUp' hEnsure hRewrites
        hPlace, .inl rfl⟩

/-! ## Files that could not be written -/

variable {folder name : String} {touched : Place → Prop}

/-- A file can be written in a folder only if the path of the folder leads to one. -/
theorem reach_of_write (hName : IsPlain name) {bytes : ByteArray}
    (h : d.write (join folder name) bytes = .ok d') :
    ∃ found, d.reach (d.start folder) (pieces folder) = .ok found := by
  obtain ⟨t, hTarget, -⟩ := put_of_write h
  rw [target_eq_bind, reach_join d hName] at hTarget
  cases hCheck : checkPath (join folder name) with
  | error other => simp [hCheck, Except.bind] at hTarget
  | ok _ =>
    cases hReach : d.reach (d.start folder) (pieces folder) with
    | error other => simp [hCheck, hReach, Except.bind] at hTarget
    | ok found => exact ⟨found, rfl⟩

/-- Whether a file can be written in a folder that is there, and why not, does not depend on what is
written, nor on other files. -/
theorem write_error_iff (hName : IsPlain name) {found : Place}
    (hReach : d.reach (d.start folder) (pieces folder) = .ok found) (h : Edits touched d d')
    {bytes bytes' : ByteArray} :
    d'.write (join folder name) bytes' = .error fault ↔
      d.write (join folder name) bytes = .error fault := by
  rw [← reach_join d hName] at hReach
  obtain ⟨hWalk, hFolder⟩ := reach_eq_ok.1 hReach
  have hTarget := target_eq h.home (fun other => (h.folders other).2) hWalk hFolder
  cases hSame : d.target (join folder name) with
  | error other =>
    rw [hSame] at hTarget
    simp only [write, hSame, hTarget, bind, Except.bind]
  | ok target =>
    rw [hSame] at hTarget
    cases target with
    | none => simp only [write, hSame, hTarget, bind, Except.bind]
    | some t =>
      have hSlash : t.slash = false := by
        rw [target_eq_bind, hReach] at hSame
        cases hCheck : checkPath (join folder name) with
        | error other => simp [hCheck, Except.bind] at hSame
        | ok _ =>
          simp only [hCheck, Except.bind] at hSame
          exact slash_join hName hSame
      have hLocked : d'.isLocked t.place = d.isLocked t.place := by simp only [isLocked, h.locked]
      rw [write_of_target hSame hSlash, write_of_target hTarget hSlash]
      simp only [h.folders t.place, hLocked]
      split
      · rfl
      · split
        · rfl
        · simp

/-- **A file that could not be written in a folder cannot be written again**, where nothing but
files changed. -/
theorem write_error_stays (hName : IsPlain name)
    (hStart : d.entry? (d.start folder) = some .folder)
    (hMade : d.makeFolders folder = (.ok (), d)) (h : Edits touched d d') {bytes : ByteArray}
    (hWrite : d.write (join folder name) bytes = .error fault) :
    d'.write (join folder name) bytes = .error fault := by
  obtain ⟨found, hReach⟩ := reach_of_makeFolders hStart hMade
  exact (write_error_iff hName hReach h).2 hWrite

end SessionReplay.Disk
