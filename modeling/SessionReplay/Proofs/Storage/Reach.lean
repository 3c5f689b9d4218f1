import SessionReplay.Proofs.Storage.Change
import SessionReplay.Proofs.Storage.Parent

/-!
# Folders that paths lead to

A path leads to a folder piece by piece. Whether a folder can be made at a path is told from the
folder that the pieces before the last one lead to, which is mostly the folder above.

* `Disk.next`, `Disk.reach`: where one piece leads, and to which folder several lead.
* `Disk.reach_core`: pieces that lead nowhere do not count at the end.
* `Disk.isFolder_iff`, `Disk.target_eq_bind`: folders and targets of paths.
* `Disk.core_piecesBefore`: what stands before the last piece of a path.
* `Disk.reach_piecesBefore`, `Disk.reach_path`: a path, seen from the one above it.
* `Disk.reach_join`: a path into a folder.
-/

namespace SessionReplay.Disk

open Storage SessionReplay.Path

variable {d d' d'' : Disk} {place : Place} {path : String} {fault : Fault}

/-! ## One piece and several -/

/-- Where one piece of a path leads. -/
def next (place : Place) (piece : String) : Except Fault Place :=
  match partOf piece with
  | none | some .root | some .here => .ok place
  | some .up => .ok place.dropLast
  | some (.name name) =>
    if maxName < name.utf8ByteSize then .error .nameTooLong else .ok (place ++ [name])

/-- The folder that the pieces of a path lead to. -/
def reach (d : Disk) (place : Place) (pieces : List String) : Except Fault Place := do
  let found ← d.walk place pieces
  d.enter found
  .ok found

theorem walk_cons (d : Disk) (place : Place) (piece : String) (rest : List String) :
    d.walk place (piece :: rest) =
      (d.enter place).bind fun _ => (next place piece).bind (d.walk · rest) := by
  simp only [walk, bind, next]
  cases d.enter place with
  | error fault => rfl
  | ok _ =>
    simp only [Except.bind]
    cases partOf piece with
    | none => rfl
    | some part =>
      cases part with
      | root | here | up => rfl
      | name name =>
        dsimp only
        split <;> rfl

theorem reach_eq_ok {pieces : List String} {found : Place} :
    d.reach place pieces = .ok found ↔
      d.walk place pieces = .ok found ∧ d.entry? found = some .folder := by
  simp only [reach, bind, Except.bind]
  cases d.walk place pieces with
  | error fault => simp
  | ok other =>
    dsimp only
    constructor
    · intro h
      split at h
      · contradiction
      · next hEnter =>
        obtain rfl := Except.ok.inj h
        exact ⟨rfl, enter_eq_ok.1 hEnter⟩
    · rintro ⟨hWalk, hFolder⟩
      obtain rfl := Except.ok.inj hWalk
      rw [enter_eq_ok.2 hFolder]

theorem reach_nil {found : Place} :
    d.reach place [] = .ok found ↔ place = found ∧ d.entry? found = some .folder := by
  rw [reach_eq_ok, walk, Except.ok.injEq]

theorem reach_mono (hFolders : ∀ place, d.entry? place = some .folder →
      d'.entry? place = some .folder) {pieces : List String} {origin found : Place}
    (h : d.reach origin pieces = .ok found) : d'.reach origin pieces = .ok found := by
  obtain ⟨hWalk, hFolder⟩ := reach_eq_ok.1 h
  exact reach_eq_ok.2 ⟨walk_mono hFolders hWalk, hFolders found hFolder⟩

theorem walk_singleton (d : Disk) (place : Place) (piece : String) :
    d.walk place [piece] = (d.enter place).bind fun _ => next place piece := by
  rw [walk_cons]
  cases d.enter place with
  | error fault => rfl
  | ok _ =>
    simp only [Except.bind]
    cases next place piece <;> rfl

/-- One piece more. -/
theorem reach_concat (d : Disk) (place : Place) (before : List String) (last : String) :
    d.reach place (before ++ [last]) =
      (d.reach place before).bind fun folder => (next folder last).bind (d.reach · []) := by
  simp only [reach, walk_append, bind]
  cases d.walk place before with
  | error fault => rfl
  | ok found =>
    simp only [Except.bind, walk_singleton]
    cases d.enter found with
    | error fault => rfl
    | ok _ =>
      dsimp only
      cases next found last <;> rfl

theorem next_of_isIdle {piece : String} (h : isIdle piece = true) (place : Place) :
    next place piece = .ok place := by
  have hNone : partOf piece = none := by simpa [isIdle] using h
  simp only [next, hNone]

theorem reach_concat_of_isIdle (d : Disk) (place : Place) (before : List String) {piece : String}
    (h : isIdle piece = true) : d.reach place (before ++ [piece]) = d.reach place before := by
  rw [reach_concat]
  cases hReach : d.reach place before with
  | error fault => rfl
  | ok found =>
    have hFound := (reach_eq_ok.1 hReach).2
    simp only [Except.bind, next_of_isIdle h]
    exact reach_eq_ok.2 ⟨rfl, hFound⟩

/-- Pieces that lead nowhere do not count at the end. -/
theorem reach_core (d : Disk) (place : Place) (pieces : List String) :
    d.reach place (core pieces) = d.reach place pieces := by
  induction pieces using List.reverseRecOn with
  | nil => rfl
  | append_singleton before piece ih =>
    cases hIdle : isIdle piece with
    | false => rw [core_concat _ hIdle]
    | true => rw [core_concat_of_isIdle _ hIdle, reach_concat_of_isIdle _ _ _ hIdle, ih]

theorem reach_congr {pieces pieces' : List String} (h : core pieces = core pieces') :
    d.reach place pieces = d.reach place pieces' := by
  rw [← reach_core, h, reach_core]

theorem next_error {folder : Place} {piece : String} (h : next folder piece = .error fault) :
    fault = .nameTooLong := by
  unfold next at h
  split at h
  · contradiction
  · contradiction
  · contradiction
  · contradiction
  · split at h
    · exact (Except.error.inj h).symm
    · contradiction

theorem eq_of_next {folder found : Place} {piece : String} (h : next folder piece = .ok found) :
    found = ([piece].filterMap partOf).foldl follow folder := by
  unfold next at h
  split at h
  · next hPart => simpa [hPart] using h.symm
  · next hPart => simpa [hPart, follow] using h.symm
  · next hPart => simpa [hPart, follow] using h.symm
  · next hPart => simpa [hPart, follow] using h.symm
  · next hPart =>
    split at h
    · contradiction
    · simpa [hPart, follow] using h.symm

theorem enter_error {found : Place} (h : d.enter found = .error fault)
    (hFault : fault ≠ .notFound) : fault = .notFolder ∧ (d.entry? found).isSome = true := by
  unfold enter at h
  split at h
  · contradiction
  · next hFile => exact ⟨(Except.error.inj h).symm, by rw [hFile]; rfl⟩
  · exact absurd (Except.error.inj h).symm hFault

theorem enter_of_reach_nil {found : Place} (h : d.reach found [] = .error fault) :
    d.enter found = .error fault := by
  simp only [reach, walk, bind, Except.bind] at h
  split at h
  · next hEnter => rw [hEnter, Except.error.inj h]
  · contradiction

/-! ## Folders and targets of paths -/

theorem isFolder_iff {path : String} :
    d.isFolder path = true ↔
      checkPath path = .ok () ∧ ∃ folder, d.reach (d.start path) (pieces path) = .ok folder := by
  have hFind : d.isFolder path = true ↔ ∃ folder, d.find path = .ok (folder, .folder) := by
    unfold isFolder
    cases d.find path with
    | error fault => simp
    | ok found =>
      obtain ⟨folder, entry⟩ := found
      cases entry <;> simp
  simp only [hFind, find_eq_ok, reach_eq_ok, exists_and_left]

theorem not_isFolder_of_reach (h : d.reach (d.start path) (pieces path) = .error fault) :
    d.isFolder path = false := by
  rw [Bool.eq_false_iff]
  intro hIs
  obtain ⟨-, folder, hFolder⟩ := isFolder_iff.1 hIs
  rw [h] at hFolder
  simp at hFolder

theorem isFolder_mono (hHome : d'.home = d.home) (hFolders : ∀ place,
      d.entry? place = some .folder → d'.entry? place = some .folder)
    (h : d.isFolder path = true) : d'.isFolder path = true := by
  obtain ⟨hCheck, folder, hReach⟩ := isFolder_iff.1 h
  refine isFolder_iff.2 ⟨hCheck, folder, ?_⟩
  rw [start_eq hHome]
  exact reach_mono hFolders hReach

theorem isFolder_edits {touched : Place → Prop} (h : Edits touched d d') (path : String) :
    d'.isFolder path = d.isFolder path := by
  rw [Bool.eq_iff_iff]
  constructor
  · exact isFolder_mono h.home.symm fun other hFolder => (h.folders other).1 hFolder
  · exact isFolder_mono h.home fun other hFolder => (h.folders other).2 hFolder

/-- The last piece of a path, the empty ones at its end aside. -/
def lastPiece? (path : String) : Option String :=
  ((pieces path).rdropWhile String.isEmpty).getLast?

/-- The target of a path, by the folder that it is in. -/
def targetIn (folder : Place) (path : String) : Except Fault (Option Target) :=
  match (lastPiece? path).bind partOf with
  | some (.name name) =>
    if h : isName name = true then
      .ok (some ⟨folder, name,
        ((pieces path).reverse.dropWhile String.isEmpty).length < (pieces path).length, h⟩)
    else .error .nameTooLong
  | _ => .ok none

theorem target_eq_bind (d : Disk) (path : String) :
    d.target path = (checkPath path).bind fun _ =>
      (d.reach (d.start path) (piecesBefore path)).bind (targetIn · path) := by
  have hLast : lastPiece? path = ((pieces path).reverse.dropWhile String.isEmpty).head? := by
    rw [lastPiece?, List.rdropWhile, List.getLast?_reverse]
  simp only [target, targetIn, hLast, reach, piecesBefore, bind]
  cases checkPath path with
  | error fault => rfl
  | ok _ =>
    simp only [Except.bind]
    cases d.walk (d.start path) _ with
    | error fault => rfl
    | ok folder =>
      dsimp only
      cases d.enter folder <;> rfl

theorem targetIn_error {folder : Place} (h : targetIn folder path = .error fault) :
    fault = .nameTooLong := by
  unfold targetIn at h
  split at h
  · split at h
    · contradiction
    · exact (Except.error.inj h).symm
  · contradiction

theorem piecesBefore_eq (path : String) :
    piecesBefore path = ((pieces path).rdropWhile String.isEmpty).dropLast := by
  rw [piecesBefore, List.rdropWhile, List.dropLast_reverse]

/-- What stands before the last piece of a path, the empty ones at its end aside: the pieces before
the last one that counts, or those up to a dot that stands behind it. -/
theorem dropLast_rdropWhile (before : List String) {last : String} (hLast : last.isEmpty = false)
    (trail : List String) :
    ((before ++ last :: trail).rdropWhile String.isEmpty).dropLast = before ∨
      ∃ trail', trail ≠ [] ∧ trail' <+: trail ∧
        ((before ++ last :: trail).rdropWhile String.isEmpty).dropLast =
          before ++ last :: trail' := by
  induction trail using List.reverseRecOn with
  | nil =>
    left
    rw [List.rdropWhile_concat_neg _ _ _ (by simp [hLast]), List.dropLast_concat]
  | append_singleton trail piece ih =>
    rw [← List.cons_append, ← List.append_assoc]
    cases hPiece : piece.isEmpty with
    | false =>
      rw [List.rdropWhile_concat_neg _ _ _ (by simp [hPiece]), List.dropLast_concat]
      exact .inr ⟨trail, by simp, List.prefix_append _ _, rfl⟩
    | true =>
      rw [List.rdropWhile_concat_pos _ _ _ hPiece]
      rcases ih with hBefore | ⟨trail', -, hPrefix, hMore⟩
      · exact .inl hBefore
      · exact .inr ⟨trail', by simp, hPrefix.trans (List.prefix_append _ _), hMore⟩

theorem isEmpty_of_isIdle {piece : String} (h : isIdle piece = false) : piece.isEmpty = false := by
  rw [Bool.eq_false_iff]
  intro hEmpty
  obtain rfl : piece = "" := by simpa using hEmpty
  contradiction

theorem core_piecesBefore {path : String} {before : List String} {last : String}
    (hCore : core (pieces path) = before ++ [last]) :
    core (piecesBefore path) = core before ∨
      core (piecesBefore path) = core (pieces path) ∧ ¬ IsTrimmed path := by
  obtain ⟨trail, hPieces, hTrail⟩ := core_append_trail (pieces path)
  have hLast := isIdle_of_core hCore
  rw [hCore, List.append_assoc, List.singleton_append] at hPieces
  rw [piecesBefore_eq, hPieces]
  rcases dropLast_rdropWhile before (isEmpty_of_isIdle hLast) trail with
    hBefore | ⟨trail', hNe, hPrefix, hMore⟩
  · exact .inl (by rw [hBefore])
  · refine .inr ⟨?_, fun hTrimmed => hNe (hTrimmed.trail_eq hPieces hLast hTrail)⟩
    rw [hMore, List.append_cons before last trail', List.append_cons before last trail,
      core_append_of_isIdle _ hTrail,
      core_append_of_isIdle _ fun piece hMem => hTrail piece (hPrefix.subset hMem)]

/-- A path with a target has its name as the last piece that counts. -/
theorem core_of_targetIn {path : String} {folder : Place} {t : Target}
    (h : targetIn folder path = .ok (some t)) :
    core (pieces path) = piecesBefore path ++ [t.name] ∧ t.folder = folder := by
  unfold targetIn at h
  split at h
  · next name hPart =>
    split at h
    · next hName =>
      obtain rfl := Option.some.inj (Except.ok.inj h)
      refine ⟨?_, rfl⟩
      obtain ⟨piece, hPiece, hPart⟩ := Option.bind_eq_some_iff.1 hPart
      obtain rfl := eq_of_partOf hPart
      obtain ⟨front, hFront⟩ := List.getLast?_eq_some_iff.1 hPiece
      have hIdle : isIdle name = false := by simp [isIdle, hPart]
      have hAll := List.rdropWhile_append_rtakeWhile (p := String.isEmpty) (l := pieces path)
      have hTrail : ∀ other ∈ (pieces path).rtakeWhile String.isEmpty, isIdle other = true := by
        intro other hMem
        obtain rfl : other = "" := by simpa using List.mem_rtakeWhile_imp hMem
        rfl
      rw [piecesBefore_eq, hFront, List.dropLast_concat, ← hAll, hFront,
        core_append_of_isIdle _ hTrail, core_concat _ hIdle]
    · contradiction
  · simp at h

/-- A path with a target leads to it. -/
theorem reach_of_targetIn {t : Target}
    (hReach : d.reach (d.start path) (piecesBefore path) = .ok t.folder)
    (hTarget : targetIn t.folder path = .ok (some t)) :
    d.reach (d.start path) (pieces path) = d.reach t.place [] := by
  have hPart := partOf_of_isName t.named
  have hSize := size_of_isName t.named
  rw [← reach_core, (core_of_targetIn hTarget).1, reach_concat, hReach]
  simp only [Except.bind, next, hPart, if_neg hSize, Target.place]

theorem lastPiece?_eq {before : List String} {last : String}
    (hPieces : pieces path = before ++ [last]) (hLast : isIdle last = false) :
    lastPiece? path = some last := by
  have hEmpty := isEmpty_of_isIdle hLast
  rw [lastPiece?, hPieces, List.rdropWhile_concat_neg _ _ _ (by simp [hEmpty]),
    List.getLast?_concat]

/-! ## Names in paths -/

theorem checkPath_ne_notFound (hPath : path ≠ "") : checkPath path ≠ .error .notFound := by
  have hEmpty : path.isEmpty = false := by simpa using hPath
  unfold checkPath
  rw [hEmpty]
  simp only [Bool.false_eq_true, if_false]
  split
  · simp
  · split <;> simp

/-- A path that begins another one is as good as that. -/
theorem checkPath_above {up : String} (hAbove : up.toList <+: path.toList) (hUp : up ≠ "")
    (h : checkPath path = .ok ()) : checkPath up = .ok () := by
  obtain ⟨-, hZero, hSize⟩ := checkPath_eq_ok.1 h
  obtain ⟨rest, hRest⟩ := hAbove
  obtain rfl : path = up ++ String.ofList rest := by
    apply String.toList_injective
    simp [hRest]
  rw [String.utf8ByteSize_append] at hSize
  exact checkPath_eq_ok.2 ⟨hUp, fun hMem => hZero (by simp [hMem]), by omega⟩

/-- A piece that counts leads up or is a name. -/
theorem partOf_cases {piece : String} (h : isIdle piece = false) :
    partOf piece = some .up ∨ partOf piece = some (.name piece) := by
  unfold isIdle at h
  unfold partOf at h ⊢
  split
  · next hIdle => simp [hIdle] at h
  · split
    · exact .inl rfl
    · exact .inr rfl

theorem mem_splitSlashes {cs piece : List Char} (h : piece ∈ splitSlashes cs) {c : Char}
    (hc : c ∈ piece) : c ∈ cs ∧ c ≠ '/' := by
  induction cs generalizing piece with
  | nil =>
    obtain rfl : piece = [] := by simpa [splitSlashes] using h
    contradiction
  | cons first cs ih =>
    by_cases hFirst : first = '/'
    · subst hFirst
      rw [splitSlashes, List.mem_cons] at h
      rcases h with rfl | h
      · contradiction
      · exact (ih h hc).imp_left (List.mem_cons_of_mem _)
    · rw [splitSlashes_cons hFirst, List.mem_cons] at h
      obtain ⟨front, more, hMore⟩ := List.exists_cons_of_ne_nil (splitSlashes_ne_nil cs)
      rw [hMore] at h ih
      rcases h with rfl | h
      · rcases List.mem_cons.1 hc with rfl | hc
        · exact ⟨List.mem_cons_self, hFirst⟩
        · exact (ih List.mem_cons_self hc).imp_left (List.mem_cons_of_mem _)
      · exact (ih (List.mem_cons_of_mem _ h) hc).imp_left (List.mem_cons_of_mem _)

/-- A piece of a path is a name, unless it is too long. -/
theorem isName_of_mem_pieces {name : String} (hCheck : checkPath path = .ok ())
    (hMem : name ∈ pieces path) (hPart : partOf name = some (.name name))
    (hSize : ¬ maxName < name.utf8ByteSize) : isName name = true := by
  obtain ⟨-, hClean, -⟩ := checkPath_eq_ok.1 hCheck
  obtain ⟨cs, hPiece, rfl⟩ := List.mem_map.1 hMem
  have hSlash : '/' ∉ cs := fun hc => (mem_splitSlashes hPiece hc).2 rfl
  have hZero : '\x00' ∉ cs := fun hc => hClean (mem_splitSlashes hPiece hc).1
  simp only [isName, hPart]
  simp [hSlash, hZero, Nat.not_lt.1 hSize]

/-! ## Paths and those above them -/

variable {up : String} {before : List String} {last : String}

theorem start_up (d : Disk) (hUp : Ascent path up) : d.start up = d.start path := by
  simp only [start, hUp.absolute]

/-- A folder is looked up in the one above it, or past it where the path ends with dots. -/
theorem reach_piecesBefore (d : Disk) (hUp : Ascent path up)
    (hCore : core (pieces path) = before ++ [last]) (hBefore : core (pieces up) = core before) :
    d.reach (d.start path) (piecesBefore path) = d.reach (d.start up) (pieces up) ∨
      ¬ IsTrimmed path ∧ d.reach (d.start path) (piecesBefore path) =
        (d.reach (d.start up) (pieces up)).bind fun folder =>
          (next folder last).bind (d.reach · []) := by
  rw [start_up d hUp, reach_congr hBefore]
  rcases core_piecesBefore hCore with hSame | ⟨hMore, hTrimmed⟩
  · exact .inl (reach_congr hSame)
  · refine .inr ⟨hTrimmed, ?_⟩
    rw [← reach_concat, ← hCore, reach_core]
    exact reach_congr hMore

theorem reach_path (d : Disk) (hUp : Ascent path up)
    (hCore : core (pieces path) = before ++ [last]) (hBefore : core (pieces up) = core before) :
    d.reach (d.start path) (pieces path) =
      (d.reach (d.start up) (pieces up)).bind fun folder =>
        (next folder last).bind (d.reach · []) := by
  rw [start_up d hUp, reach_congr hBefore, ← reach_concat, ← hCore, reach_core]

theorem filterMap_core (pieces : List String) :
    (core pieces).filterMap partOf = pieces.filterMap partOf := by
  obtain ⟨trail, hPieces, hTrail⟩ := core_append_trail pieces
  have hNothing : trail.filterMap partOf = [] := by
    rw [filterMap_partOf_eq_nil, core, List.rdropWhile_eq_nil_iff]
    exact hTrail
  conv_rhs => rw [hPieces, List.filterMap_append, hNothing, List.append_nil]

/-- The place of a path, seen from the one above it. -/
theorem locate_of_up (d : Disk) (hUp : Ascent path up)
    (hCore : core (pieces path) = before ++ [last]) (hBefore : core (pieces up) = core before) :
    d.locate path = ([last].filterMap partOf).foldl follow (d.locate up) := by
  rw [locate_eq, locate_eq, start_up d hUp, ← filterMap_core (pieces path),
    ← filterMap_core (pieces up), hCore, hBefore, filterMap_core, List.filterMap_append,
    List.foldl_append]

/-- Where the folder above is there, a path can miss nothing but its own place. -/
theorem reach_missing_iff (hUp : Ascent path up) (hCore : core (pieces path) = before ++ [last])
    (hBefore : core (pieces up) = core before) {folder : Place}
    (hReach : d.reach (d.start up) (pieces up) = .ok folder) :
    d.reach (d.start path) (pieces path) = .error .notFound ↔
      next folder last = .ok (d.locate path) ∧ d.entry? (d.locate path) = none := by
  have hFolder : folder = d.locate up := by
    rw [locate_eq]
    exact eq_of_walk (reach_eq_ok.1 hReach).1
  rw [reach_path d hUp hCore hBefore, hReach]
  simp only [Except.bind]
  cases hNext : next folder last with
  | error other =>
    have hLong := next_error hNext
    simp [hLong]
  | ok found =>
    have hFound : found = d.locate path := by
      rw [locate_of_up d hUp hCore hBefore, ← hFolder]
      exact eq_of_next hNext
    rw [hFound]
    simp only [true_and, reach, walk, bind, Except.bind, enter]
    cases d.entry? (d.locate path) with
    | none => simp
    | some entry => cases entry <;> simp

/-! ## Paths into a folder -/

variable {folder name : String}

theorem rdropWhile_join (hName : IsPlain name) (before : List String) :
    (before ++ [name]).rdropWhile String.isEmpty = before ++ [name] := by
  have hEmpty : name.isEmpty = false := isEmpty_of_isIdle (by simp [isIdle, hName.part])
  exact List.rdropWhile_concat_neg _ _ _ (by simp [hEmpty])

/-- A path into a folder is looked up there. -/
theorem reach_join (d : Disk) (hName : IsPlain name) (folder : String) :
    d.reach (d.start (join folder name)) (piecesBefore (join folder name)) =
      d.reach (d.start folder) (pieces folder) := by
  by_cases hFolder : folder = ""
  · have hPieces : pieces name = [] ++ [name] := pieces_eq_singleton hName.slash
    have hBefore : piecesBefore name = [] := by
      rw [piecesBefore_eq, hPieces, rdropWhile_join hName, List.dropLast_concat]
    have hStart : d.start name = d.start "" := by
      simp only [start, isAbsolute_of_not_mem hName.slash]
      rfl
    rw [hFolder, join_empty, hBefore, hStart]
    have hNothing : core [] = core (pieces "") := rfl
    exact reach_congr hNothing
  · obtain ⟨before, hJoin, hPieces⟩ := pieces_join hName.slash hFolder
    have hBefore : piecesBefore (join folder name) = before := by
      rw [piecesBefore_eq, hJoin, rdropWhile_join hName, List.dropLast_concat]
    have hStart : d.start (join folder name) = d.start folder := by
      simp only [start, isAbsolute_join hName.slash hFolder]
    rw [hBefore, hStart]
    refine reach_congr ?_
    rcases hPieces with hPieces | hPieces
    · rw [hPieces]
    · rw [hPieces, core_concat_of_isIdle _ rfl]

/-- A path into a folder asks for a file. -/
theorem slash_join (hName : IsPlain name) {found : Place} {t : Target}
    (h : targetIn found (join folder name) = .ok (some t)) : t.slash = false := by
  have hPieces : ∃ before, pieces (join folder name) = before ++ [name] := by
    by_cases hFolder : folder = ""
    · rw [hFolder, join_empty]
      exact ⟨[], pieces_eq_singleton hName.slash⟩
    · obtain ⟨before, hJoin, -⟩ := pieces_join hName.slash hFolder
      exact ⟨before, hJoin⟩
  obtain ⟨before, hPieces⟩ := hPieces
  have hWhole := rdropWhile_join hName before
  rw [← hPieces, List.rdropWhile] at hWhole
  have hLength := congrArg List.length hWhole
  rw [List.length_reverse] at hLength
  unfold targetIn at h
  split at h
  · split at h
    · obtain rfl := Option.some.inj (Except.ok.inj h)
      simp [hLength]
    · simp at h
  · simp at h

end SessionReplay.Disk
