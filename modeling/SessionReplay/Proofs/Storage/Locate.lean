import SessionReplay.Proofs.Storage.Lookup

/-!
# The places of paths

As there are no links, the place that a path leads to can be told from its parts alone, whether
something stands there or not.

* `Disk.locate`: the place of a path.
* `Disk.locate_of_find`, `Disk.locate_of_target`: a path is found at its place.
* `Path.filterMap_join`, `Disk.locate_join`: the parts and the place of a path into a folder.
* `Disk.locate_of_fileName`: the place of a path with a file name ends with that name.
-/

namespace SessionReplay

open Storage

namespace Path

/-- Where one more part of a path leads. -/
def follow (place : Place) : Part → Place
  | .name name => place ++ [name]
  | .up => place.dropLast
  | .root | .here => place

theorem foldl_parts (place : Place) (path : String) :
    (parts path).foldl follow place = ((pieces path).filterMap partOf).foldl follow place := by
  unfold parts
  split
  · next hEmpty =>
    obtain rfl : path = "" := by simpa using hEmpty
    rfl
  · dsimp only
    split <;> rfl

/-- A name that stands behind a folder in a path. -/
structure IsPlain (name : String) : Prop where
  part : partOf name = some (.name name)
  slash : '/' ∉ name.toList

theorem isPlain_of_isName {name : String} (h : isName name = true) : IsPlain name :=
  ⟨partOf_of_isName h, not_mem_of_isName h⟩

theorem parts_of_isPlain {name : String} (h : IsPlain name) : parts name = [.name name] := by
  have hPieces := pieces_eq_singleton h.slash
  have hPart := h.part
  have hRoot : name ≠ "" := by
    rintro rfl
    contradiction
  have hHere : name ≠ "." := by
    rintro rfl
    contradiction
  simp [parts, hPieces, hPart, hRoot, hHere]

/-- A path into a folder has the parts of the path of the folder before the name. -/
theorem filterMap_join {name : String} (hName : IsPlain name) (folder : String) :
    (pieces (join folder name)).filterMap partOf =
      (pieces folder).filterMap partOf ++ [.name name] := by
  by_cases hEmpty : folder = ""
  · have hNothing : (pieces "").filterMap partOf = [] := by decide
    rw [hEmpty, join_empty, pieces_eq_singleton hName.slash, hNothing]
    simp [hName.part]
  · obtain ⟨before, hJoin, hPieces⟩ := pieces_join hName.slash hEmpty
    have hFolder : (pieces folder).filterMap partOf = before.filterMap partOf := by
      have hNothing : partOf "" = none := rfl
      rcases hPieces with hPieces | hPieces <;> simp [hPieces, hNothing]
    rw [hJoin, hFolder, List.filterMap_append]
    simp [hName.part]

end Path

namespace Disk

/-- The place of a path, which is where its parts lead. -/
def locate (d : Disk) (path : String) : Place := (Path.parts path).foldl Path.follow (d.start path)

theorem locate_eq (d : Disk) (path : String) :
    d.locate path = ((Path.pieces path).filterMap Path.partOf).foldl Path.follow (d.start path) :=
  Path.foldl_parts _ _

theorem eq_of_walk {d : Disk} {place found : Place} {pieces : List String}
    (h : d.walk place pieces = .ok found) :
    found = (pieces.filterMap Path.partOf).foldl Path.follow place := by
  induction pieces generalizing place with
  | nil => exact (Except.ok.inj h).symm
  | cons piece rest ih =>
    simp only [walk, bind, Except.bind] at h
    split at h
    · contradiction
    · rw [List.filterMap_cons]
      cases hPart : Path.partOf piece with
      | none =>
        simp only [hPart] at h
        exact ih h
      | some part =>
        cases part with
        | root | here =>
          simp only [hPart] at h
          exact ih h
        | up =>
          simp only [hPart] at h
          exact ih h
        | name name =>
          simp only [hPart] at h
          split at h
          · contradiction
          · exact ih h

theorem locate_of_find {d : Disk} {path : String} {place : Place} {entry : Entry}
    (h : d.find path = .ok (place, entry)) : place = d.locate path := by
  rw [locate_eq]
  exact eq_of_walk (find_eq_ok.1 h).2.1

theorem locate_of_target {d : Disk} {path : String} {t : Target}
    (h : d.target path = .ok (some t)) (hSlash : t.slash = false) : t.place = d.locate path := by
  obtain ⟨-, -, before, hWalk, hPieces⟩ := eq_before_of_target h
  have hFolder := eq_of_walk hWalk
  rw [locate_eq, hPieces hSlash, List.filterMap_append, List.foldl_append, ← hFolder]
  simp [Path.partOf_of_isName t.named, Path.follow, Target.place]

theorem start_join (d : Disk) {name : String} (hName : Path.IsPlain name) (folder : String) :
    d.start (Path.join folder name) = d.start folder := by
  by_cases hEmpty : folder = ""
  · have hHome : Path.isAbsolute "" = false := rfl
    rw [hEmpty, Path.join_empty, start, start, Path.isAbsolute_of_not_mem hName.slash, hHome]
  · rw [start, Path.isAbsolute_join hName.slash hEmpty, ← start]

theorem locate_join (d : Disk) {name : String} (hName : Path.IsPlain name) (folder : String) :
    d.locate (Path.join folder name) = d.locate folder ++ [name] := by
  rw [locate_eq, locate_eq, start_join d hName, Path.filterMap_join hName, List.foldl_append]
  rfl

theorem locate_of_fileName (d : Disk) {path name : String} (h : Path.fileName? path = some name) :
    ∃ folder, d.locate path = folder ++ [name] := by
  unfold Path.fileName? at h
  split at h
  · next hLast =>
    obtain rfl := Option.some.inj h
    obtain ⟨before, hParts⟩ := List.getLast?_eq_some_iff.1 hLast
    refine ⟨before.foldl Path.follow (d.start path), ?_⟩
    rw [locate, hParts, List.foldl_append]
    rfl
  · contradiction

end Disk
end SessionReplay
