import SessionReplay.Proofs.Storage.Reach

/-!
# Making folders

A single folder is made where the one above it is there and nothing stands in its place. With all
those above it, a folder is made once they are there; if that does not work, it is known where it
stopped.

* `Disk.Refusal`, `Disk.makeFolder_eq_error`: why a single folder is not made.
* `Disk.ensureFolder_of_isFolder`, `Disk.isFolder_of_ensureFolder`: what is there, and what is made.
* `Disk.makeFolders_eq`: a folder is made after those above it.
* `Disk.makeFolders_of_ok`: what was made is made again, and nothing changes.
* `Disk.refusal_of_reach`: why a folder is not made that cannot be reached.
* `Disk.Obstacle`, `Disk.obstacle`: where the making of folders stops.
* `Disk.isFolder_above`, `Disk.not_isFolder_of_makeFolders`: what stands at a path stands in a
  folder, and a folder that could not be made is not there.
-/

namespace SessionReplay.Disk

open Storage SessionReplay.Path

variable {d d' d'' : Disk} {place : Place} {path : String} {fault : Fault}

/-! ## One folder -/

/-- Why a folder is not made. -/
inductive Refusal (d : Disk) (path : String) : Fault → Prop
  | path {fault : Fault} (hCheck : checkPath path = .error fault) : Refusal d path fault
  | above {fault : Fault} (hCheck : checkPath path = .ok ())
    (hReach : d.reach (d.start path) (piecesBefore path) = .error fault) : Refusal d path fault
  | name {folder : Place} (hCheck : checkPath path = .ok ())
    (hReach : d.reach (d.start path) (piecesBefore path) = .ok folder)
    (hName : targetIn folder path = .error .nameTooLong) : Refusal d path .nameTooLong
  | unnamed {folder : Place} (hCheck : checkPath path = .ok ())
    (hReach : d.reach (d.start path) (piecesBefore path) = .ok folder)
    (hName : targetIn folder path = .ok none) : Refusal d path .alreadyExists
  | taken {folder : Place} {t : Target} (hCheck : checkPath path = .ok ())
    (hReach : d.reach (d.start path) (piecesBefore path) = .ok folder)
    (hName : targetIn folder path = .ok (some t)) (hEntry : (d.entry? t.place).isSome = true) :
    Refusal d path .alreadyExists

theorem makeFolder_eq_error : d.makeFolder path = .error fault ↔ Refusal d path fault := by
  simp only [makeFolder, target_eq_bind, bind]
  constructor
  · intro h
    cases hCheck : checkPath path with
    | error other =>
      rw [hCheck] at h
      obtain rfl : other = fault := Except.error.inj h
      exact .path hCheck
    | ok _ =>
      simp only [hCheck, Except.bind] at h
      cases hReach : d.reach (d.start path) (piecesBefore path) with
      | error other =>
        rw [hReach] at h
        obtain rfl : other = fault := Except.error.inj h
        exact .above hCheck hReach
      | ok folder =>
        simp only [hReach] at h
        cases hName : targetIn folder path with
        | error other =>
          rw [hName] at h
          obtain rfl : other = fault := Except.error.inj h
          obtain rfl := targetIn_error hName
          exact .name hCheck hReach hName
        | ok found =>
          simp only [hName] at h
          cases found with
          | none =>
            obtain rfl : Fault.alreadyExists = fault := Except.error.inj h
            exact .unnamed hCheck hReach hName
          | some t =>
            dsimp only at h
            split at h
            · next entry hEntry =>
              obtain rfl : Fault.alreadyExists = fault := Except.error.inj h
              exact .taken hCheck hReach hName (by rw [hEntry]; rfl)
            · contradiction
  · intro h
    cases h with
    | path hCheck => simp [hCheck, Except.bind]
    | above hCheck hReach => simp [hCheck, hReach, Except.bind]
    | name hCheck hReach hName => simp [hCheck, hReach, hName, Except.bind]
    | unnamed hCheck hReach hName => simp [hCheck, hReach, hName, Except.bind]
    | taken hCheck hReach hName hEntry =>
      obtain ⟨entry, hEntry⟩ := Option.isSome_iff_exists.1 hEntry
      simp [hCheck, hReach, hName, hEntry, Except.bind]

/-- What it takes to make a folder, and what comes of it. -/
theorem put_of_makeFolder (h : d.makeFolder path = .ok d') :
    ∃ t, checkPath path = .ok () ∧
      d.reach (d.start path) (piecesBefore path) = .ok t.folder ∧
      targetIn t.folder path = .ok (some t) ∧ d.entry? t.place = none ∧
      d' = d.put t.place .folder t.isPlace_place := by
  simp only [makeFolder, target_eq_bind, bind] at h
  cases hCheck : checkPath path with
  | error other => simp [hCheck, Except.bind] at h
  | ok _ =>
    simp only [hCheck, Except.bind] at h
    cases hReach : d.reach (d.start path) (piecesBefore path) with
    | error other => simp [hReach] at h
    | ok folder =>
      simp only [hReach] at h
      cases hTarget : targetIn folder path with
      | error other => simp [hTarget] at h
      | ok found =>
        simp only [hTarget] at h
        split at h
        · contradiction
        · next t =>
          obtain ⟨-, rfl⟩ := core_of_targetIn hTarget
          split at h
          · contradiction
          · next hNone => exact ⟨t, rfl, rfl, hTarget, hNone, (Except.ok.inj h).symm⟩

theorem ensureFolder_eq_error :
    d.ensureFolder path = (.error fault, d') ↔
      d.makeFolder path = .error fault ∧ d.isFolder path = false ∧ d' = d := by
  unfold ensureFolder
  cases hMake : d.makeFolder path with
  | ok made => simp
  | error other =>
    dsimp only
    cases hFolder : d.isFolder path <;> simp [eq_comm]

/-- A folder that is there is not made. -/
theorem ensureFolder_of_isFolder (h : d.isFolder path = true) :
    d.ensureFolder path = (.ok (), d) := by
  unfold ensureFolder
  cases hMake : d.makeFolder path with
  | error other => simp only [h, if_true]
  | ok made =>
    obtain ⟨t, -, hReach, hTarget, hNone, -⟩ := put_of_makeFolder hMake
    obtain ⟨-, folder, hFolder⟩ := isFolder_iff.1 h
    rw [reach_of_targetIn hReach hTarget] at hFolder
    obtain ⟨rfl, hEntry⟩ := reach_nil.1 hFolder
    rw [hEntry] at hNone
    contradiction

/-- What was made is there. -/
theorem isFolder_of_ensureFolder (h : d.ensureFolder path = (.ok (), d')) :
    d'.isFolder path = true := by
  unfold ensureFolder at h
  cases hMake : d.makeFolder path with
  | error other =>
    simp only [hMake] at h
    split at h
    · next hFolder =>
      obtain rfl := (Prod.mk.inj h).2
      exact hFolder
    · simp at h
  | ok made =>
    simp only [hMake] at h
    obtain rfl := (Prod.mk.inj h).2
    have hChange := makeFolder_changesOnly hMake
    obtain ⟨t, hCheck, hReach, hTarget, hNone, rfl⟩ := put_of_makeFolder hMake
    have hEntry := entry?_put (d := d) .folder t.isPlace_place t.place
    rw [if_pos rfl] at hEntry
    rw [← start_eq hChange.home] at hReach
    refine isFolder_iff.2 ⟨hCheck, t.place, ?_⟩
    rw [reach_of_targetIn (reach_mono hChange.folders hReach) hTarget]
    exact reach_nil.2 ⟨rfl, hEntry⟩

/-! ## A folder and those above it -/

theorem makeFolders_empty (d : Disk) : d.makeFolders "" = (.ok (), d) := rfl

/-- A folder is made after those above it, where one of them is missing. -/
theorem makeFolders_eq (d : Disk) (hPath : path ≠ "") :
    d.makeFolders path =
      match d.ensureFolder path with
      | (.error .notFound, _) =>
        match parent? path with
        | none => (.error .noRoot, d)
        | some up =>
          match d.makeFolders up with
          | (.ok (), d) => d.ensureFolder path
          | failed => failed
      | result => result := by
  have hEmpty : path.isEmpty = false := by simpa using hPath
  rw [makeFolders, upwards, above_eq, makeEach, hEmpty]
  simp only [Bool.false_eq_true, if_false]
  cases parent? path with
  | none => rfl
  | some up => rfl

theorem makeFolders_of_ensureFolder (hPath : path ≠ "") {result : Except Fault Unit × Disk}
    (h : d.ensureFolder path = result) (hFault : result.1 ≠ .error .notFound) :
    d.makeFolders path = result := by
  rw [makeFolders_eq d hPath, h]
  split
  · next other => exact absurd rfl hFault
  · rfl

theorem makeFolders_of_isFolder (h : d.isFolder path = true) :
    d.makeFolders path = (.ok (), d) := by
  have hPath : path ≠ "" := by
    rintro rfl
    obtain ⟨hCheck, -⟩ := isFolder_iff.1 h
    contradiction
  exact makeFolders_of_ensureFolder hPath (ensureFolder_of_isFolder h) (by simp)

theorem isFolder_of_makeFolders (h : d.makeFolders path = (.ok (), d')) :
    path = "" ∨ d'.isFolder path = true := by
  by_cases hPath : path = ""
  · exact .inl hPath
  · right
    rw [makeFolders_eq d hPath] at h
    split at h
    · split at h
      · simp at h
      · split at h
        · exact isFolder_of_ensureFolder h
        · next hFailed => exact absurd h (hFailed d')
    · exact isFolder_of_ensureFolder h

/-- **What was made is made again, and nothing changes.** -/
theorem makeFolders_of_ok (h : d.makeFolders path = (.ok (), d')) (hHome : d''.home = d'.home)
    (hFolders : ∀ place, d'.entry? place = some .folder → d''.entry? place = some .folder) :
    d''.makeFolders path = (.ok (), d'') := by
  rcases isFolder_of_makeFolders h with rfl | hFolder
  · exact makeFolders_empty d''
  · exact makeFolders_of_isFolder (isFolder_mono hHome hFolders hFolder)

variable {up : String} {before : List String} {last : String}

/-- The folder above a path is there exactly if it can be made and nothing changes. -/
theorem reach_of_makeFolders (hStart : d.entry? (d.start up) = some .folder)
    (h : d.makeFolders up = (.ok (), d)) :
    ∃ folder, d.reach (d.start up) (pieces up) = .ok folder := by
  rcases isFolder_of_makeFolders h with rfl | hFolder
  · refine ⟨d.start "", ?_⟩
    have hNothing : core (pieces "") = [] := by decide
    rw [← reach_core, hNothing, reach_nil]
    exact ⟨rfl, hStart⟩
  · exact (isFolder_iff.1 hFolder).2

theorem makeFolders_of_reach (hUp : Ascent path up) (hCheck : checkPath path = .ok ())
    {folder : Place} (h : d.reach (d.start up) (pieces up) = .ok folder) :
    d.makeFolders up = (.ok (), d) := by
  by_cases hEmpty : up = ""
  · rw [hEmpty, makeFolders_empty]
  · exact makeFolders_of_isFolder
      (isFolder_iff.2 ⟨checkPath_above hUp.above hEmpty hCheck, folder, h⟩)

/-! ## What cannot be made -/

theorem checkPath_of_missing (hPath : path ≠ "") (h : d.makeFolder path = .error .notFound) :
    checkPath path = .ok () ∧
      d.reach (d.start path) (piecesBefore path) = .error .notFound := by
  cases makeFolder_eq_error.1 h with
  | path hCheck => exact absurd hCheck (checkPath_ne_notFound hPath)
  | above hCheck hReach => exact ⟨hCheck, hReach⟩

theorem makeFolders_of_refusal (hPath : path ≠ "") (hFolder : d.isFolder path = false)
    (h : Refusal d path fault) (hFault : fault ≠ .notFound) :
    d.makeFolders path = (.error fault, d) :=
  makeFolders_of_ensureFolder hPath
    (ensureFolder_eq_error.2 ⟨makeFolder_eq_error.2 h, hFolder, rfl⟩) (by simpa using hFault)

/-- What the last piece of a path says of the way through it and of what can be put there: it leads
up, it is too long for a name, or it is a name. -/
theorem next_last_cases (hCheck : checkPath path = .ok ()) (hPieces : pieces path = before ++ [last])
    (hLast : isIdle last = false) (folder : Place) :
    next folder last = .ok folder.dropLast ∧ targetIn folder path = .ok none ∨
      next folder last = .error .nameTooLong ∧ targetIn folder path = .error .nameTooLong ∨
      next folder last = .ok (folder ++ [last]) ∧
        ∃ t, targetIn folder path = .ok (some t) ∧ t.place = folder ++ [last] := by
  have hName := lastPiece?_eq hPieces hLast
  rcases partOf_cases hLast with hUp | hPart
  · refine .inl ⟨by simp only [next, hUp], ?_⟩
    simp only [targetIn, hName, Option.bind_some, hUp]
  · by_cases hSize : maxName < last.utf8ByteSize
    · have hLong : isName last = false := by
        rw [Bool.eq_false_iff]
        exact fun hIs => size_of_isName hIs hSize
      refine .inr (.inl ⟨by simp only [next, hPart, if_pos hSize], ?_⟩)
      simp only [targetIn, hName, Option.bind_some, hPart, hLong]
      rfl
    · have hIs := isName_of_mem_pieces hCheck (by simp [hPieces]) hPart hSize
      refine .inr (.inr ⟨by simp only [next, hPart, if_neg hSize], ?_⟩)
      simp only [targetIn, hName, Option.bind_some, hPart, hIs]
      exact ⟨_, rfl, rfl⟩

/-- A trimmed path that leads to no folder is refused for the same reason, or because what is there
is no folder. -/
theorem refusal_of_reach (hStart : d.entry? (d.start path) = some .folder)
    (hTrimmed : IsTrimmed path) (hCheck : checkPath path = .ok ())
    (hReach : d.reach (d.start path) (pieces path) = .error fault) (hFault : fault ≠ .notFound) :
    Refusal d path fault ∨ Refusal d path .alreadyExists ∧ fault = .notFolder := by
  have hSomewhere : core (pieces path) ≠ [] := by
    intro hCore
    rw [← reach_core, hCore, reach_nil.2 ⟨rfl, hStart⟩] at hReach
    contradiction
  cases hTrimmed with
  | nothing | slash | dot => exact absurd (by decide) hSomewhere
  | @piece _ before last hPieces hLast =>
    have hCore : core (pieces path) = before ++ [last] := by rw [hPieces, core_concat _ hLast]
    have hAbove : d.reach (d.start path) (piecesBefore path) = d.reach (d.start path) before := by
      rcases core_piecesBefore hCore with hBefore | ⟨-, hUntrimmed⟩
      · exact reach_congr hBefore
      · exact absurd (.piece hPieces hLast) hUntrimmed
    rw [hPieces, reach_concat] at hReach
    cases hBefore : d.reach (d.start path) before with
    | error other =>
      rw [hBefore] at hReach
      obtain rfl : other = fault := Except.error.inj hReach
      exact .inl (.above hCheck (hAbove.trans hBefore))
    | ok folder =>
      rw [hBefore] at hAbove hReach
      simp only [Except.bind] at hReach
      have hFound : ∀ found, next folder last = .ok found →
          fault = .notFolder ∧ (d.entry? found).isSome = true := by
        intro found hNext
        rw [hNext] at hReach
        exact enter_error (enter_of_reach_nil hReach) hFault
      rcases next_last_cases hCheck hPieces hLast folder with
        ⟨hNext, hTarget⟩ | ⟨hNext, hTarget⟩ | ⟨hNext, t, hTarget, hPlace⟩
      · exact .inr ⟨.unnamed hCheck hAbove hTarget, (hFound _ hNext).1⟩
      · rw [hNext] at hReach
        obtain rfl : Fault.nameTooLong = fault := Except.error.inj hReach
        exact .inl (.name hCheck hAbove hTarget)
      · obtain ⟨hFolder, hEntry⟩ := hFound _ hNext
        rw [← hPlace] at hEntry
        exact .inr ⟨.taken hCheck hAbove hTarget hEntry, hFolder⟩

/-- A path that leads nowhere is a folder that is there, unless it is no path at all. -/
theorem ensureFolder_of_core_eq_nil (hStart : d.entry? (d.start path) = some .folder)
    (hPath : path ≠ "") (hCore : core (pieces path) = []) :
    (d.ensureFolder path).1 ≠ .error .notFound := by
  cases hCheck : checkPath path with
  | error other =>
    intro hMissing
    have hError : d.ensureFolder path = (.error .notFound, (d.ensureFolder path).2) := by
      rw [← hMissing]
    obtain ⟨hMake, -, -⟩ := ensureFolder_eq_error.1 hError
    cases makeFolder_eq_error.1 hMake with
    | path hMissing => exact checkPath_ne_notFound hPath hMissing
    | above hOk => simp [hOk] at hCheck
  | ok _ =>
    have hFolder : d.isFolder path = true := by
      refine isFolder_iff.2 ⟨hCheck, d.start path, ?_⟩
      rw [← reach_core, hCore, reach_nil]
      exact ⟨rfl, hStart⟩
    rw [ensureFolder_of_isFolder hFolder]
    simp

/-- Where the making of a folder stops, with the fault and what is on the disk then. -/
inductive Obstacle (d : Disk) (path : String) : Fault → Disk → Prop
  | here {fault : Fault} (hEnsure : d.ensureFolder path = (.error fault, d))
    (hFault : fault ≠ .notFound) : Obstacle d path fault d
  | above {up : String} {before : List String} {last : String} {fault : Fault} {d' : Disk}
    (hCheck : checkPath path = .ok ()) (hParent : parent? path = some up)
    (hCore : core (pieces path) = before ++ [last]) (hBefore : core (pieces up) = core before)
    (hUp : d.makeFolders up = (.error fault, d')) : Obstacle d path fault d'
  | last {up : String} {before : List String} {last : String} {fault : Fault} {d' : Disk}
    (hParent : parent? path = some up) (hCore : core (pieces path) = before ++ [last])
    (hBefore : core (pieces up) = core before) (hUp : d.makeFolders up = (.ok (), d'))
    (hEnsure : d'.ensureFolder path = (.error fault, d')) : Obstacle d path fault d'

theorem obstacle (hStart : d.entry? (d.start path) = some .folder) (hPath : path ≠ "")
    (hMake : d.makeFolders path = (.error fault, d')) : Obstacle d path fault d' := by
  rcases hEnsure : d.ensureFolder path with ⟨result, made⟩
  cases result with
  | ok _ =>
    rw [makeFolders_of_ensureFolder hPath hEnsure (by simp)] at hMake
    simp at hMake
  | error first =>
    obtain ⟨hRefused, -, hSame⟩ := ensureFolder_eq_error.1 hEnsure
    rw [hSame] at hEnsure
    by_cases hFirst : first = .notFound
    · subst hFirst
      obtain ⟨hCheck, -⟩ := checkPath_of_missing hPath hRefused
      have hSomewhere : core (pieces path) ≠ [] := by
        intro hCore
        exact ensureFolder_of_core_eq_nil hStart hPath hCore (by rw [hEnsure])
      rw [makeFolders_eq _ hPath, hEnsure] at hMake
      cases hParent : parent? path with
      | none => exact absurd ((parent?_eq_none hPath).1 hParent).2 hSomewhere
      | some up =>
        obtain ⟨hCore, -⟩ | ⟨before, last, hCore, hBefore⟩ := (ascent hParent).core
        · exact absurd hCore hSomewhere
        · simp only [hParent] at hMake
          rcases hMade : d.makeFolders up with ⟨result, made'⟩
          rw [hMade] at hMake
          cases result with
          | error second =>
            obtain ⟨hFault, rfl⟩ := Prod.mk.inj hMake
            obtain rfl := Except.error.inj hFault
            exact .above hCheck hParent hCore hBefore hMade
          | ok _ =>
            obtain ⟨-, -, rfl⟩ := ensureFolder_eq_error.1 hMake
            exact .last hParent hCore hBefore hMade hMake
    · rw [makeFolders_of_ensureFolder hPath hEnsure (by simpa using hFirst)] at hMake
      obtain ⟨hFault, rfl⟩ := Prod.mk.inj hMake
      obtain rfl := Except.error.inj hFault
      exact .here hEnsure hFirst

/-! ## What is not there -/

theorem has_of_isFolder (h : d.isFolder path = true) : d.has path = true := by
  unfold isFolder at h
  unfold has
  cases hFind : d.find path with
  | ok found => rfl
  | error fault => simp [hFind] at h

/-- What stands at a path stands in the folder above. -/
theorem isFolder_above (hHas : d.has path = true) (hParent : parent? path = some up)
    (hNe : up ≠ "") : d.isFolder up = true := by
  have hUp := ascent hParent
  obtain ⟨-, hEmpty⟩ | ⟨before, last, hCore, hBefore⟩ := hUp.core
  · exact absurd hEmpty hNe
  · obtain ⟨found, hFind⟩ : ∃ found, d.find path = .ok found := by
      cases hFind : d.find path with
      | ok found => exact ⟨found, rfl⟩
      | error fault => simp [has, hFind] at hHas
    obtain ⟨hCheck, hWalk, -⟩ := find_eq_ok.1 hFind
    obtain ⟨trail, hPieces, -⟩ := core_append_trail (pieces path)
    rw [hCore, List.append_assoc, List.singleton_append] at hPieces
    rw [hPieces, walk_append] at hWalk
    cases hFolder : d.walk (d.start path) before with
    | error fault => simp [hFolder, Except.bind] at hWalk
    | ok folder =>
      rw [hFolder] at hWalk
      simp only [Except.bind, walk_cons] at hWalk
      cases hEnter : d.enter folder with
      | error fault => simp [hEnter] at hWalk
      | ok _ =>
        refine isFolder_iff.2 ⟨checkPath_above hUp.above hNe hCheck, folder, ?_⟩
        rw [start_up d hUp, reach_congr hBefore]
        exact reach_eq_ok.2 ⟨hFolder, enter_eq_ok.1 hEnter⟩

theorem not_isFolder_of_ensureFolder (h : d.ensureFolder path = (.error fault, d')) :
    d'.isFolder path = false := by
  obtain ⟨-, hNone, rfl⟩ := ensureFolder_eq_error.1 h
  exact hNone

/-- A folder that could not be made is not there, although some above it may be. -/
theorem not_isFolder_of_makeFolders (hMake : d.makeFolders path = (.error fault, d')) :
    d'.isFolder path = false := by
  induction path using upInduction generalizing d' fault with
  | _ path ih =>
    by_cases hPath : path = ""
    · simp [hPath, makeFolders_empty] at hMake
    · rw [makeFolders_eq d hPath] at hMake
      split at hMake
      · next hEnsure =>
        obtain ⟨-, hNone, -⟩ := ensureFolder_eq_error.1 hEnsure
        split at hMake
        · rwa [← (Prod.mk.inj hMake).2]
        · next up hParent =>
          split at hMake
          · exact not_isFolder_of_ensureFolder hMake
          · -- One of the folders above could not be made: there is none to hold this one.
            have hUp : d'.isFolder up = false := ih up hParent hMake
            have hNe : up ≠ "" := by
              rintro rfl
              simp [makeFolders_empty] at hMake
            rw [Bool.eq_false_iff]
            intro hFolder
            rw [isFolder_above (has_of_isFolder hFolder) hParent hNe] at hUp
            contradiction
      · exact not_isFolder_of_ensureFolder hMake

end SessionReplay.Disk
