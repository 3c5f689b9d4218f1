import SessionReplay.Storage.Disk
import Mathlib.Data.List.Nodup

/-!
# Names in folders

A name that a folder lists leads back, with the path of the folder before it, to the place that
the name stands for.

* `Path.pieces_join`: the pieces of a path into a folder.
* `Disk.Lists`: a folder lists a name; `Disk.lists_iff` says what has an entry then, and
  `Disk.nodup_of_list` that each name is listed once.
* `Disk.target_join`, `Disk.find_join`: where a path into a folder leads.
* `Disk.find_of_target`: what a target leads to is what the path names.
-/

namespace SessionReplay

open Storage

/-! ## Paths into a folder -/

namespace Path

theorem splitSlashes_cons {c : Char} (hc : c ≠ '/') (cs : List Char) :
    splitSlashes (c :: cs) =
      (c :: (splitSlashes cs).headD []) :: (splitSlashes cs).tail := by
  rw [splitSlashes.eq_3 _ _ hc]
  cases splitSlashes cs <;> rfl

theorem splitSlashes_ne_nil (cs : List Char) : splitSlashes cs ≠ [] := by
  cases cs with
  | nil => simp [splitSlashes]
  | cons c cs =>
    by_cases hc : c = '/'
    · simp [hc, splitSlashes]
    · simp [splitSlashes_cons hc]

theorem splitSlashes_eq_singleton {cs : List Char} (h : '/' ∉ cs) : splitSlashes cs = [cs] := by
  induction cs with
  | nil => rfl
  | cons c cs ih =>
    rw [List.mem_cons, not_or] at h
    rw [splitSlashes_cons (Ne.symm h.1), ih h.2]
    rfl

theorem pieces_eq_singleton {name : String} (h : '/' ∉ name.toList) : pieces name = [name] := by
  simp [pieces, splitSlashes_eq_singleton h]

theorem splitSlashes_append {name : List Char} (h : '/' ∉ name) (cs : List Char) :
    splitSlashes (cs ++ '/' :: name) = splitSlashes cs ++ [name] := by
  induction cs with
  | nil => simp [splitSlashes, splitSlashes_eq_singleton h]
  | cons c cs ih =>
    by_cases hc : c = '/'
    · simp [hc, splitSlashes, ih]
    · rw [List.cons_append, splitSlashes_cons hc, splitSlashes_cons hc, ih]
      obtain ⟨piece, more, hPieces⟩ := List.exists_cons_of_ne_nil (splitSlashes_ne_nil cs)
      simp [hPieces]

theorem not_mem_of_isName {name : String} (h : isName name = true) : '/' ∉ name.toList := by
  unfold isName at h
  split at h
  · simp only [Bool.and_eq_true, Bool.not_eq_true', List.contains_eq_mem] at h
    simpa using h.1.1
  · contradiction

theorem eq_of_partOf {piece name : String} (h : partOf piece = some (.name name)) :
    name = piece := by
  unfold partOf at h
  split at h
  · contradiction
  · split at h <;> simp_all

theorem partOf_of_isName {name : String} (h : isName name = true) :
    partOf name = some (.name name) := by
  unfold isName at h
  split at h
  · next other hPart =>
    unfold partOf at hPart ⊢
    split at hPart
    · contradiction
    · split at hPart
      · simp at hPart
      · simp_all
  · contradiction

theorem size_of_isName {name : String} (h : isName name = true) :
    ¬ maxName < name.utf8ByteSize := by
  unfold isName at h
  split at h
  · simp only [Bool.and_eq_true, decide_eq_true_eq] at h
    exact Nat.not_lt.2 h.2
  · contradiction

theorem nonempty_of_isName {name : String} (h : isName name = true) : name.isEmpty = false := by
  have hPart := partOf_of_isName h
  unfold partOf at hPart
  split at hPart
  · contradiction
  · simp_all

theorem isAbsolute_of_not_mem {name : String} (h : '/' ∉ name.toList) :
    isAbsolute name = false := by
  simp only [isAbsolute, beq_eq_false_iff_ne]
  exact fun hHead => h (List.mem_of_mem_head? hHead)

theorem join_empty (path : String) : join "" path = path := by simp [join]

theorem join_eq {name : String} (hName : '/' ∉ name.toList) {folder : String}
    (hFolder : folder ≠ "") :
    join folder name =
      if folder.toList.getLast? == some '/' then folder ++ name else folder ++ "/" ++ name := by
  simp [join, isAbsolute_of_not_mem hName, hFolder]

theorem isAbsolute_join {name : String} (hSlash : '/' ∉ name.toList) {folder : String}
    (hFolder : folder ≠ "") : isAbsolute (join folder name) = isAbsolute folder := by
  obtain ⟨c, cs, hcs⟩ := List.exists_cons_of_ne_nil
    (fun h => hFolder (String.toList_injective (by simpa using h)) : folder.toList ≠ [])
  rw [join_eq hSlash hFolder]
  split <;> simp [isAbsolute, hcs]

theorem pieces_append {name : String} (h : '/' ∉ name.toList) (path : String) :
    pieces (path ++ "/" ++ name) = pieces path ++ [name] := by
  have hList : (path ++ "/" ++ name).toList = path.toList ++ '/' :: name.toList := by simp
  rw [pieces, hList, splitSlashes_append h, List.map_append]
  simp [pieces]

/-- A path into a folder has the pieces of the path of the folder before the name, up to the empty
piece that stands behind a slash at its end. -/
theorem pieces_join {name : String} (hSlash : '/' ∉ name.toList) {folder : String}
    (hFolder : folder ≠ "") :
    ∃ before, pieces (join folder name) = before ++ [name] ∧
      (pieces folder = before ∨ pieces folder = before ++ [""]) := by
  rw [join_eq hSlash hFolder]
  split
  · next hLast =>
    obtain ⟨cs, hcs⟩ := List.getLast?_eq_some_iff.1 (beq_iff_eq.1 hLast)
    obtain rfl : folder = String.ofList cs ++ "/" := by
      apply String.toList_injective
      simp [hcs]
    have hEmpty : '/' ∉ "".toList := by simp
    refine ⟨pieces (String.ofList cs), pieces_append hSlash _, .inr ?_⟩
    simpa using pieces_append hEmpty (String.ofList cs)
  · exact ⟨pieces folder, pieces_append hSlash folder, .inl rfl⟩

end Path

/-! ## Finding places -/

namespace Disk

theorem enter_eq_ok {d : Disk} {place : Place} :
    d.enter place = .ok () ↔ d.entry? place = some .folder := by
  unfold enter
  split <;> simp_all

theorem walk_append (d : Disk) (place : Place) (before after : List String) :
    d.walk place (before ++ after) = (d.walk place before).bind (d.walk · after) := by
  induction before generalizing place with
  | nil => rfl
  | cons piece before ih =>
    simp only [List.cons_append, walk]
    cases d.enter place with
    | error fault => rfl
    | ok _ =>
      simp only [bind, Except.bind]
      cases Path.partOf piece with
      | none => exact ih place
      | some part =>
        cases part with
        | root => exact ih place
        | here => exact ih place
        | up => exact ih _
        | name name =>
          dsimp only
          split
          · rfl
          · exact ih _

theorem checkPath_eq_ok {path : String} :
    checkPath path = .ok () ↔
      path ≠ "" ∧ '\x00' ∉ path.toList ∧ path.utf8ByteSize ≤ maxPath := by
  unfold checkPath
  split
  · next hEmpty => simpa using fun hNe => absurd hEmpty (by simpa using hNe)
  · next hEmpty =>
    split
    · next hZero => simpa using fun _ hNone => absurd hZero (by simpa using hNone)
    · next hZero =>
      split
      · next hSize => simpa using fun _ _ => hSize
      · next hSize =>
        simp only [true_iff]
        exact ⟨by simpa using hEmpty, by simpa using hZero, Nat.not_lt.1 hSize⟩

theorem find_eq_ok {d : Disk} {path : String} {place : Place} {entry : Entry} :
    d.find path = .ok (place, entry) ↔
      checkPath path = .ok () ∧ d.walk (d.start path) (Path.pieces path) = .ok place ∧
        d.entry? place = some entry := by
  simp only [find, bind, Except.bind]
  cases checkPath path with
  | error fault => simp
  | ok _ =>
    cases d.walk (d.start path) (Path.pieces path) with
    | error fault => simp
    | ok found =>
      dsimp only
      split
      · next hEntry =>
        constructor
        · intro h
          obtain ⟨rfl, rfl⟩ := Prod.mk.inj (Except.ok.inj h)
          exact ⟨rfl, rfl, hEntry⟩
        · rintro ⟨-, h, hFound⟩
          obtain rfl := Except.ok.inj h
          rw [hEntry] at hFound
          rw [Option.some.inj hFound]
      · next hEntry =>
        constructor
        · intro h
          contradiction
        · rintro ⟨-, h, hFound⟩
          obtain rfl := Except.ok.inj h
          rw [hEntry] at hFound
          contradiction

theorem target_of_pieces {d : Disk} {path name : String} {before : List String} {folder : Place}
    (hName : isName name = true) (hCheck : checkPath path = .ok ())
    (hPieces : Path.pieces path = before ++ [name])
    (hWalk : d.walk (d.start path) before = .ok folder) (hFolder : d.entry? folder = some .folder) :
    d.target path = .ok (some ⟨folder, name, false, hName⟩) := by
  have hPart : Path.partOf name = some (.name name) := Path.partOf_of_isName hName
  have hNonempty : name.isEmpty = false := Path.nonempty_of_isName hName
  have hEnter := enter_eq_ok.2 hFolder
  simp only [target, hCheck, hPieces, List.reverse_append, List.reverse_cons, List.reverse_nil,
    List.nil_append, List.cons_append, List.dropWhile_cons, hNonempty, bind, Except.bind,
    Bool.false_eq_true, if_false, List.tail_cons, List.reverse_reverse, hWalk, hEnter,
    List.head?_cons, Option.bind_some, hPart, hName, dite_true]
  simp

theorem eq_of_walk_empty {d : Disk} {place found : Place} (h : d.walk place [""] = .ok found) :
    place = found := by
  simp only [walk, bind, Except.bind] at h
  split at h
  · contradiction
  · simpa [Path.partOf] using h

/-- The target of a path into a folder is the name in that folder. -/
theorem target_join {d : Disk} {path name : String} {folder : Place} (hName : isName name = true)
    (hFind : d.find path = .ok (folder, .folder))
    (hCheck : checkPath (Path.join path name) = .ok ()) :
    d.target (Path.join path name) = .ok (some ⟨folder, name, false, hName⟩) := by
  obtain ⟨hPath, hWalk, hFolder⟩ := find_eq_ok.1 hFind
  have hNonempty : path ≠ "" := by
    rintro rfl
    simp [checkPath] at hPath
  have hSlash := Path.not_mem_of_isName hName
  obtain ⟨before, hJoin, hPieces⟩ := Path.pieces_join hSlash hNonempty
  refine target_of_pieces hName hCheck hJoin ?_ hFolder
  rw [start, Path.isAbsolute_join hSlash hNonempty, ← start]
  rcases hPieces with hPieces | hPieces
  · rwa [hPieces] at hWalk
  · rw [hPieces, walk_append] at hWalk
    cases hBefore : d.walk (d.start path) before with
    | error fault => simp [hBefore, Except.bind] at hWalk
    | ok place =>
      rw [hBefore] at hWalk
      rw [eq_of_walk_empty hWalk]

theorem eq_before_of_target {d : Disk} {path : String} {t : Target}
    (h : d.target path = .ok (some t)) :
    checkPath path = .ok () ∧ d.entry? t.folder = some .folder ∧
      ∃ before, d.walk (d.start path) before = .ok t.folder ∧
        (t.slash = false → Path.pieces path = before ++ [t.name]) := by
  simp only [target, bind, Except.bind] at h
  split at h
  · contradiction
  · next hCheck =>
    split at h
    · contradiction
    · next folder hWalk =>
      split at h
      · contradiction
      · next hEnter =>
        split at h
        · next name hLast =>
          split at h
          · next hName =>
            obtain rfl := Option.some.inj (Except.ok.inj h)
            refine ⟨hCheck, enter_eq_ok.1 hEnter, _, hWalk, fun hSlash => ?_⟩
            have hSuffix := List.dropWhile_suffix (l := (Path.pieces path).reverse) String.isEmpty
            have hAll := hSuffix.eq_of_length_le (by simpa using hSlash)
            rw [hAll] at hLast ⊢
            obtain ⟨piece, hPiece, hPart⟩ := Option.bind_eq_some_iff.1 hLast
            obtain ⟨rest, hRest⟩ := List.head?_eq_some_iff.1 hPiece
            obtain rfl := Path.eq_of_partOf hPart
            exact List.reverse_inj.1 (by simp [hRest])
          · contradiction
        · simp at h

/-- What stands at the target of a path is what the path names, unless a slash behind it asks for
a folder. -/
theorem find_of_target {d : Disk} {path : String} {t : Target} {entry : Entry}
    (hTarget : d.target path = .ok (some t)) (hSlash : t.slash = false)
    (hEntry : d.entry? t.place = some entry) : d.find path = .ok (t.place, entry) := by
  obtain ⟨hCheck, hFolder, before, hWalk, hPieces⟩ := eq_before_of_target hTarget
  refine find_eq_ok.2 ⟨hCheck, ?_, hEntry⟩
  rw [hPieces hSlash, walk_append, hWalk]
  simp [Except.bind, walk, enter_eq_ok.2 hFolder, bind, Path.partOf_of_isName t.named,
    Path.size_of_isName t.named, Target.place]

/-- What it takes to remove a file, and what comes of it. -/
theorem remove_eq_ok {d d' : Disk} {path : String} :
    d.remove path = .ok d' ↔ ∃ t bytes, d.target path = .ok (some t) ∧ t.slash = false ∧
      d.entry? t.place = some (.file bytes) ∧ d.isLocked t.place = false ∧
        d' = d.erase t.place := by
  simp only [remove, bind, Except.bind]
  cases d.target path with
  | error fault => simp
  | ok target =>
    cases target with
    | none => simp
    | some t =>
      dsimp only
      split
      · next hEntry => simp [hEntry]
      · next hEntry => simp [hEntry]
      · next bytes hEntry =>
        simp only [Except.ok.injEq, Option.some.injEq]
        constructor
        · intro h
          split at h
          · contradiction
          · next hSlash =>
            split at h
            · contradiction
            · next hLocked =>
              exact ⟨t, bytes, rfl, by simpa using hSlash, hEntry, by simpa using hLocked,
                (Except.ok.inj h).symm⟩
        · rintro ⟨t, bytes, rfl, hSlash, -, hLocked, rfl⟩
          simp [hSlash, hLocked]

/-! ## Listing a folder -/

/-- A folder lists a name. -/
def Lists (d : Disk) (path name : String) : Prop :=
  ∃ names, d.list path = .ok names ∧ name ∈ names

theorem nameIn_eq_some {folder place : Place} {name : String} :
    nameIn folder place = some name ↔ place = folder ++ [name] := by
  unfold nameIn
  constructor
  · intro h
    split at h
    · next hFolder =>
      obtain ⟨before, rfl⟩ := List.getLast?_eq_some_iff.1 h
      rw [← hFolder, List.dropLast_concat]
    · contradiction
  · rintro rfl
    simp

theorem lists_iff {d : Disk} {path name : String} :
    d.Lists path name ↔ ∃ folder, d.find path = .ok (folder, .folder) ∧
      folder ++ [name] ∈ d.entries.map (·.1) := by
  simp only [Lists, list, bind, Except.bind]
  cases hFind : d.find path with
  | error fault => simp
  | ok found =>
    obtain ⟨place, entry⟩ := found
    cases entry with
    | file bytes => simp
    | folder => simp [nameIn_eq_some]

theorem find_of_list {d : Disk} {path : String} {names : List String}
    (h : d.list path = .ok names) : ∃ folder, d.find path = .ok (folder, .folder) := by
  simp only [list, bind, Except.bind] at h
  split at h
  · contradiction
  · next found hFind =>
    split at h
    · next hEntry => exact ⟨found.1, by rw [hFind, ← hEntry]⟩
    · contradiction

/-- A folder lists each name once. -/
theorem nodup_of_list {d : Disk} {path : String} {names : List String}
    (h : d.list path = .ok names) : names.Nodup := by
  obtain ⟨place, hFolder⟩ := find_of_list h
  simp only [list, hFolder, bind, Except.bind] at h
  obtain rfl := Except.ok.inj h
  have hMap : d.entries.filterMap (fun e => nameIn place e.1) =
      (d.entries.map (·.1)).filterMap (nameIn place) := by
    rw [List.filterMap_map]
    rfl
  rw [hMap]
  refine d.nodup.filterMap fun p q name hp hq => ?_
  rw [nameIn_eq_some.1 (Option.mem_def.1 hp), nameIn_eq_some.1 (Option.mem_def.1 hq)]

theorem Lists.isName {d : Disk} {path name : String} (h : d.Lists path name) :
    isName name = true := by
  obtain ⟨folder, -, hMem⟩ := lists_iff.1 h
  obtain ⟨e, he, hPlace⟩ := List.mem_map.1 hMem
  simpa [isPlace, hPlace] using d.placed e he

/-! ## What stands in a folder -/

theorem mem_entries {d : Disk} {place : Place} {name : String} {entry : Storage.Entry}
    (h : d.entry? (place ++ [name]) = some entry) : place ++ [name] ∈ d.entries.map (·.1) := by
  unfold entry? at h
  rw [if_neg (by simp)] at h
  obtain ⟨e, hFind, -⟩ := Option.map_eq_some_iff.1 h
  have hPlace : e.1 = place ++ [name] := by simpa using List.find?_some hFind
  rw [← hPlace]
  exact List.mem_map_of_mem (List.mem_of_find?_eq_some hFind)

theorem isName_of_stands {d : Disk} {place : Place} {name : String} {entry : Storage.Entry}
    (h : d.entry? (place ++ [name]) = some entry) : isName name = true := by
  obtain ⟨e, hMem, hPlace⟩ := List.mem_map.1 (mem_entries h)
  simpa [isPlace, hPlace] using d.placed e hMem

theorem isFile_iff {d : Disk} {path : String} :
    d.isFile path = true ↔ ∃ place bytes, d.find path = .ok (place, .file bytes) := by
  unfold isFile
  cases d.find path with
  | error fault => simp
  | ok found =>
    obtain ⟨place, entry⟩ := found
    cases entry <;> simp

end Disk
end SessionReplay
