import SessionReplay.Proofs.Storage.Appending
import Mathlib.Data.List.Infix

/-!
# Disks that differ at one place

Two disks may differ in what stands at one place, and in whether that can be changed. An operation
whose path does not lead through the place does the same on both, and leaves them like that.

* `Disk.way`: the places that a path leads through.
* `Disk.AlikeBut`: two disks are alike but for one place.
* `AlikeBut.walk`, `find`, `readText`, `list`: what is read is the same.
* `AlikeBut.write`, `remove`, `makeFolders`: what is changed is the same.
* `AlikeBut.of_append`: a disk is like itself with something put behind a file.
-/

namespace SessionReplay

open Storage

/-! ## The places on the way -/

namespace Path

/-- The places that pieces lead through, from a place on. -/
def wayFrom (place : Place) (pieces : List String) : List Place :=
  (pieces.filterMap partOf).inits.map (·.foldl follow place)

variable {place other : Place} {pieces : List String}

theorem mem_wayFrom : other ∈ wayFrom place pieces ↔
    ∃ parts, parts <+: pieces.filterMap partOf ∧ parts.foldl follow place = other := by
  simp only [wayFrom, List.mem_map, List.mem_inits _ _]

theorem mem_wayFrom_self (place : Place) (pieces : List String) : place ∈ wayFrom place pieces :=
  mem_wayFrom.2 ⟨[], List.nil_prefix, rfl⟩

theorem wayFrom_subset {before : List String} (h : before <+: pieces) :
    wayFrom place before ⊆ wayFrom place pieces := by
  intro other hMem
  obtain ⟨parts, hParts, hOther⟩ := mem_wayFrom.1 hMem
  exact mem_wayFrom.2 ⟨parts, hParts.trans (h.filterMap partOf), hOther⟩

theorem wayFrom_core (place : Place) (pieces : List String) :
    wayFrom place (core pieces) = wayFrom place pieces := by
  rw [wayFrom, Disk.filterMap_core, wayFrom]

/-- The places behind the first piece. -/
theorem wayFrom_behind {piece : String} (h : Disk.next place piece = .ok other) :
    wayFrom other pieces ⊆ wayFrom place (piece :: pieces) := by
  intro found hMem
  obtain ⟨parts, hParts, hFound⟩ := mem_wayFrom.1 hMem
  refine mem_wayFrom.2 ⟨[piece].filterMap partOf ++ parts, ?_, ?_⟩
  · have hSplit : (piece :: pieces).filterMap partOf =
        [piece].filterMap partOf ++ pieces.filterMap partOf := by
      rw [← List.filterMap_append, List.singleton_append]
    rw [hSplit]
    exact (List.prefix_append_right_inj _).2 hParts
  · rw [List.foldl_append, ← Disk.eq_of_next h, hFound]

end Path

namespace Disk

open SessionReplay.Path

/-- The places that a path leads through: where it begins, where each of its parts leads, and so
its own place. -/
def way (d : Disk) (path : String) : List Place := wayFrom (d.start path) (pieces path)

variable {d d' d'' : Disk} {log place : Place} {path : String}

theorem way_eq_of_home (hHome : d'.home = d.home) (path : String) : d'.way path = d.way path := by
  rw [way, start_eq hHome, way]

theorem locate_mem_way (d : Disk) (path : String) : d.locate path ∈ d.way path :=
  mem_wayFrom.2 ⟨_, List.prefix_rfl, (locate_eq d path).symm⟩

theorem way_up_subset (d : Disk) {up : String} (hUp : Ascent path up) : d.way up ⊆ d.way path := by
  rw [way, start_up d hUp, way]
  rcases hUp.core with ⟨-, rfl⟩ | ⟨before, last, hCore, hBefore⟩
  · have hStart : pieces "" = [""] := by decide
    rw [hStart]
    intro other hMem
    obtain ⟨parts, hParts, rfl⟩ := mem_wayFrom.1 hMem
    rw [List.prefix_nil.1 hParts]
    exact mem_wayFrom_self _ _
  · rw [← wayFrom_core _ (pieces up), hBefore, wayFrom_core, ← wayFrom_core _ (pieces path), hCore]
    exact wayFrom_subset (List.prefix_append _ _)

theorem piecesBefore_begins (path : String) : piecesBefore path <+: pieces path := by
  rw [piecesBefore_eq]
  exact (List.dropLast_prefix _).trans (List.rdropWhile_prefix _ _)

/-- A path into a folder leads through nothing more than its own place. -/
theorem mem_way_join {name : String} (hName : IsPlain name) {folder : String}
    (h : place ∈ d.way (join folder name)) :
    place ∈ d.way folder ∨ place = d.locate folder ++ [name] := by
  rw [way, start_join d hName] at h
  obtain ⟨parts, hParts, rfl⟩ := mem_wayFrom.1 h
  rw [filterMap_join hName, List.prefix_concat_iff] at hParts
  rcases hParts with rfl | hParts
  · right
    rw [List.foldl_append, ← locate_eq]
    rfl
  · exact .inl (mem_wayFrom.2 ⟨parts, hParts, rfl⟩)

/-- A target is a name in the folder that the pieces before the last one lead to. -/
theorem reach_of_target {t : Target} (h : d.target path = .ok (some t)) :
    d.reach (d.start path) (piecesBefore path) = .ok t.folder ∧
      targetIn t.folder path = .ok (some t) := by
  rw [target_eq_bind] at h
  cases hCheck : checkPath path with
  | error fault => simp [hCheck, Except.bind] at h
  | ok _ =>
    cases hReach : d.reach (d.start path) (piecesBefore path) with
    | error fault => simp [hCheck, hReach, Except.bind] at h
    | ok folder =>
      simp only [hCheck, hReach, Except.bind] at h
      obtain ⟨-, rfl⟩ := core_of_targetIn h
      exact ⟨rfl, h⟩

/-- What is not in a folder does not count among its names. -/
theorem filterMap_nameIn_erase {folder : Place} (hNone : nameIn folder log = none) (d : Disk) :
    (Disk.entries (d.erase log)).filterMap (fun e => nameIn folder e.1) =
      d.entries.filterMap fun e => nameIn folder e.1 := by
  rw [erase, List.filterMap_filter]
  refine List.filterMap_congr fun e _ => ?_
  by_cases hLog : e.1 = log
  · simp [hLog, hNone]
  · simp [hLog]

/-! ## Disks that are alike -/

/-- The same stands everywhere but at one place, where something else may stand and may be locked.
-/
structure AlikeBut (log : Place) (d d' : Disk) : Prop where
  home : d'.home = d.home
  entries : Disk.entries (d'.erase log) = Disk.entries (d.erase log)
  locks : ∀ place, place ≠ log → d'.isLocked place = d.isLocked place

namespace AlikeBut

theorem refl (log : Place) (d : Disk) : AlikeBut log d d := ⟨rfl, rfl, fun _ _ => rfl⟩

theorem symm (h : AlikeBut log d d') : AlikeBut log d' d :=
  ⟨h.home.symm, h.entries.symm, fun place hPlace => (h.locks place hPlace).symm⟩

theorem trans (h : AlikeBut log d d') (h' : AlikeBut log d' d'') : AlikeBut log d d'' :=
  ⟨h'.home.trans h.home, h'.entries.trans h.entries,
    fun place hPlace => (h'.locks place hPlace).trans (h.locks place hPlace)⟩

theorem entry? (h : AlikeBut log d d') (hPlace : place ≠ log) :
    d'.entry? place = d.entry? place := by
  rw [← entry?_erase_of_ne hPlace, ← entry?_erase_of_ne (d := d) hPlace, Disk.entry?, Disk.entry?,
    h.entries]

theorem start (h : AlikeBut log d d') (path : String) : d'.start path = d.start path :=
  start_eq h.home path

theorem way (h : AlikeBut log d d') (path : String) : d'.way path = d.way path :=
  way_eq_of_home h.home path

theorem locate (h : AlikeBut log d d') (path : String) : d'.locate path = d.locate path :=
  locate_eq_of_home h.home path

/-! ## What is read -/

theorem enter (h : AlikeBut log d d') (hPlace : place ≠ log) : d'.enter place = d.enter place := by
  rw [Disk.enter, h.entry? hPlace, Disk.enter]

theorem walk (h : AlikeBut log d d') {pieces : List String} (hWay : log ∉ wayFrom place pieces) :
    d'.walk place pieces = d.walk place pieces := by
  induction pieces generalizing place with
  | nil => rfl
  | cons piece rest ih =>
    have hPlace : place ≠ log := fun hLog => hWay (hLog ▸ mem_wayFrom_self place _)
    rw [walk_cons, walk_cons, h.enter hPlace]
    cases hNext : next place piece with
    | error fault => rfl
    | ok found =>
      simp only [Except.bind]
      rw [ih fun hMem => hWay (wayFrom_behind hNext hMem)]

theorem find (h : AlikeBut log d d') (hWay : log ∉ d.way path) : d'.find path = d.find path := by
  unfold Disk.find
  rw [h.start, h.walk hWay]
  cases hWalk : d.walk (d.start path) (pieces path) with
  | error fault => rfl
  | ok found =>
    have hFound : found ≠ log := by
      rintro rfl
      rw [eq_of_walk hWalk, ← locate_eq] at hWay
      exact hWay (locate_mem_way d path)
    simp only [bind, Except.bind, h.entry? hFound]

theorem readText (h : AlikeBut log d d') (hWay : log ∉ d.way path) :
    d'.readText path = d.readText path := by
  rw [Disk.readText, Disk.read, h.find hWay, Disk.readText, Disk.read]

theorem has (h : AlikeBut log d d') (hWay : log ∉ d.way path) : d'.has path = d.has path := by
  rw [Disk.has, h.find hWay, Disk.has]

theorem isFile (h : AlikeBut log d d') (hWay : log ∉ d.way path) :
    d'.isFile path = d.isFile path := by
  rw [Disk.isFile, h.find hWay, Disk.isFile]

theorem isFolder (h : AlikeBut log d d') (hWay : log ∉ d.way path) :
    d'.isFolder path = d.isFolder path := by
  rw [Disk.isFolder, h.find hWay, Disk.isFolder]

/-- The names in a folder that the place is not in. -/
theorem list (h : AlikeBut log d d') (hWay : log ∉ d.way path)
    (hOutside : ¬ d.locate path <+: log) : d'.list path = d.list path := by
  unfold Disk.list
  rw [h.find hWay]
  cases hFind : d.find path with
  | error fault => rfl
  | ok found =>
    obtain ⟨folder, entry⟩ := found
    obtain rfl := locate_of_find hFind
    have hNone : nameIn (d.locate path) log = none := by
      rw [Option.eq_none_iff_forall_ne_some]
      rintro name hName
      exact hOutside (nameIn_eq_some.1 hName ▸ List.prefix_append _ _)
    simp only [bind, Except.bind]
    rw [← filterMap_nameIn_erase hNone d', h.entries, filterMap_nameIn_erase hNone]

/-! ## What is changed -/

theorem filter_putEntry (entry : Entry) (hPlace : place ≠ log) (l : List (Place × Entry)) :
    (putEntry place entry l).filter (fun e => e.1 != log) =
      putEntry place entry (l.filter fun e => e.1 != log) := by
  induction l with
  | nil => simp [putEntry, hPlace]
  | cons e rest ih =>
    by_cases hHere : e.1 = place
    · simp [putEntry, hHere, hPlace]
    · by_cases hLog : e.1 = log
      · simp [putEntry, hLog, Ne.symm hPlace, ih]
      · simp [putEntry, hHere, hLog, ih]

theorem filter_putEntry_self (entry : Entry) (l : List (Place × Entry)) :
    (putEntry log entry l).filter (fun e => e.1 != log) = l.filter fun e => e.1 != log := by
  induction l with
  | nil => simp [putEntry]
  | cons e rest ih =>
    by_cases hLog : e.1 = log
    · simp [putEntry, hLog]
    · simp [putEntry, hLog, ih]

theorem put (h : AlikeBut log d d') (entry : Entry) (hPlace : isPlace place = true)
    (hOther : place ≠ log) : AlikeBut log (d.put place entry hPlace) (d'.put place entry hPlace) where
  home := h.home
  entries := by
    have hEntries := h.entries
    simp only [Disk.erase, Disk.put] at hEntries ⊢
    rw [filter_putEntry entry hOther, hEntries, filter_putEntry entry hOther]
  locks := h.locks

theorem erase (h : AlikeBut log d d') (place : Place) :
    AlikeBut log (d.erase place) (d'.erase place) where
  home := h.home
  entries := by
    have hEntries := h.entries
    simp only [Disk.erase] at hEntries ⊢
    rw [List.filter_comm, hEntries, List.filter_comm]
  locks := h.locks

/-- A disk is like itself with something else at the place. -/
theorem of_put (d : Disk) (entry : Entry) (hPlace : isPlace log = true) :
    AlikeBut log d (d.put log entry hPlace) where
  home := rfl
  entries := filter_putEntry_self entry d.entries
  locks _ _ := rfl

/-- The same happens to two disks: the same fault, or they are alike afterwards. -/
inductive EndsAlike (log : Place) : Except Fault Disk → Except Fault Disk → Prop
  | ok {d d' : Disk} (h : AlikeBut log d d') : EndsAlike log (.ok d) (.ok d')
  | error (fault : Fault) : EndsAlike log (.error fault) (.error fault)

theorem target (h : AlikeBut log d d') (hWay : log ∉ d.way path) :
    d'.target path = d.target path := by
  have hBefore : log ∉ wayFrom (d.start path) (piecesBefore path) :=
    fun hMem => hWay (wayFrom_subset (piecesBefore_begins path) hMem)
  rw [target_eq_bind, target_eq_bind, h.start, Disk.reach, h.walk hBefore, Disk.reach]
  cases hWalk : d.walk (d.start path) (piecesBefore path) with
  | error fault => rfl
  | ok folder =>
    have hFolder : folder ≠ log := by
      rintro rfl
      rw [eq_of_walk hWalk] at hBefore
      exact hBefore (mem_wayFrom.2 ⟨_, List.prefix_rfl, rfl⟩)
    simp only [bind, Except.bind, h.enter hFolder]

/-- The target of a path is not the place. -/
theorem target_ne {t : Target} (hTarget : d.target path = .ok (some t)) (hWay : log ∉ d.way path) :
    t.place ≠ log := by
  rintro rfl
  obtain ⟨hReach, hIn⟩ := reach_of_target hTarget
  rw [place_of_targetIn hReach hIn] at hWay
  exact hWay (locate_mem_way d path)

theorem write (h : AlikeBut log d d') (hWay : log ∉ d.way path) (bytes : ByteArray) :
    EndsAlike log (d.write path bytes) (d'.write path bytes) := by
  unfold Disk.write
  rw [h.target hWay]
  cases hTarget : d.target path with
  | error fault => exact .error fault
  | ok found =>
    cases found with
    | none => exact .error _
    | some t =>
      have hOther := target_ne hTarget hWay
      simp only [bind, Except.bind]
      rw [h.entry? hOther, h.locks _ hOther]
      split
      · exact .error _
      · split
        · exact .error _
        · split
          · exact .error _
          · exact .ok (h.put _ _ hOther)
      · split
        · exact .error _
        · split
          · exact .error _
          · exact .ok (h.put _ _ hOther)

theorem remove (h : AlikeBut log d d') (hWay : log ∉ d.way path) :
    EndsAlike log (d.remove path) (d'.remove path) := by
  unfold Disk.remove
  rw [h.target hWay]
  cases hTarget : d.target path with
  | error fault => exact .error fault
  | ok found =>
    cases found with
    | none => exact .error _
    | some t =>
      have hOther := target_ne hTarget hWay
      simp only [bind, Except.bind]
      rw [h.entry? hOther, h.locks _ hOther]
      split
      · exact .error _
      · exact .error _
      · split
        · exact .error _
        · split
          · exact .error _
          · exact .ok (h.erase _)

theorem makeFolder (h : AlikeBut log d d') (hWay : log ∉ d.way path) :
    EndsAlike log (d.makeFolder path) (d'.makeFolder path) := by
  unfold Disk.makeFolder
  rw [h.target hWay]
  cases hTarget : d.target path with
  | error fault => exact .error fault
  | ok found =>
    cases found with
    | none => exact .error _
    | some t =>
      have hOther := target_ne hTarget hWay
      simp only [bind, Except.bind]
      rw [h.entry? hOther]
      split
      · exact .error _
      · exact .ok (h.put _ _ hOther)

theorem ensureFolder (h : AlikeBut log d d') (hWay : log ∉ d.way path) :
    (d'.ensureFolder path).1 = (d.ensureFolder path).1 ∧
      AlikeBut log (d.ensureFolder path).2 (d'.ensureFolder path).2 := by
  have hMake := h.makeFolder hWay
  unfold Disk.ensureFolder
  rw [h.isFolder hWay]
  generalize d.makeFolder path = made at hMake ⊢
  generalize d'.makeFolder path = made' at hMake ⊢
  cases hMake with
  | ok hMade => exact ⟨rfl, hMade⟩
  | error fault =>
    dsimp only
    split
    · exact ⟨rfl, h⟩
    · exact ⟨rfl, h⟩

theorem makeFolders (h : AlikeBut log d d') (hWay : log ∉ d.way path) :
    (d'.makeFolders path).1 = (d.makeFolders path).1 ∧
      AlikeBut log (d.makeFolders path).2 (d'.makeFolders path).2 := by
  induction path using upInduction generalizing d d' with
  | step path ih =>
    by_cases hPath : path = ""
    · rw [hPath, makeFolders_empty, makeFolders_empty]
      exact ⟨rfl, h⟩
    · obtain ⟨hResult, hMade⟩ := h.ensureFolder hWay
      rcases hEnsure : d.ensureFolder path with ⟨result, made⟩
      rcases hEnsure' : d'.ensureFolder path with ⟨result', made'⟩
      rw [hEnsure, hEnsure'] at hResult hMade
      obtain rfl : result' = result := hResult
      by_cases hMissing : result' = .error .notFound
      · subst hMissing
        rw [makeFolders_eq d hPath, makeFolders_eq d' hPath, hEnsure, hEnsure']
        dsimp only
        cases hParent : parent? path with
        | none => exact ⟨rfl, h⟩
        | some up =>
          have hWayUp : log ∉ d.way up := fun hMem => hWay (d.way_up_subset (ascent hParent) hMem)
          obtain ⟨hSame, hAlike⟩ := ih up hParent h hWayUp
          have hHome := (d.makeFolders_changesOnly up).home
          rcases hUp : d.makeFolders up with ⟨first, disk⟩
          rcases hUp' : d'.makeFolders up with ⟨first', disk'⟩
          rw [hUp, hUp'] at hSame hAlike
          rw [hUp] at hHome
          obtain rfl : first' = first := hSame
          simp only [hUp, hUp']
          cases first' with
          | error fault => exact ⟨rfl, hAlike⟩
          | ok _ => exact hAlike.ensureFolder (by rwa [way_eq_of_home hHome])
      · rw [makeFolders_of_ensureFolder hPath hEnsure hMissing,
          makeFolders_of_ensureFolder hPath hEnsure' hMissing]
        exact ⟨rfl, hMade⟩

/-- A disk is like itself with something put behind a file. -/
theorem of_append {bytes : ByteArray} (h : d.append path bytes = .ok d') :
    AlikeBut (d.locate path) d d' := by
  rw [append_eq] at h
  obtain ⟨t, hTarget, hSlash, -, -, rfl⟩ := put_of_write h
  rw [← locate_of_target hTarget hSlash]
  exact of_put d _ _

end AlikeBut
end Disk
end SessionReplay
