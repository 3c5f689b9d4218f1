import SessionReplay.Conversion.Batch
import SessionReplay.Proofs.Conversion.Names
import SessionReplay.Proofs.Storage.Change
import SessionReplay.Proofs.Storage.Parent
import Mathlib.Data.List.Nodup

/-!
# The recordings in a folder

The recordings that are found in a folder are its files with the extension of recordings, unless
the path to one of them is longer than paths may be.

* `Path.EndsIn`: the last name in a path, which is its file name; `Path.fileName?_join`: that of a
  path into a folder.
* `Disk.find_join`: what a path into a folder names.
* `Disk.HoldsRecording`, `Converter.mem_recordings`: which recordings are found.
* `Converter.nodup_recordings`: each of them is found once, in a place of its own.
-/

namespace SessionReplay

open Storage

/-! ## Paths into a folder -/

namespace Path

/-- The last piece of a path that is neither empty nor a dot, where it is a name. -/
def EndsIn (path name : String) : Prop :=
  ∃ before trail, pieces path = before ++ name :: trail ∧
    (∀ piece ∈ trail, piece = "" ∨ piece = ".") ∧ name ≠ "" ∧ name ≠ "." ∧ name ≠ ".."

theorem partOf_eq_none {piece : String} : partOf piece = none ↔ piece = "" ∨ piece = "." := by
  unfold partOf
  split
  · next hNothing => simpa using hNothing
  · next hSomething =>
    split <;> simpa using hSomething

theorem partOf_eq_name {piece name : String} :
    partOf piece = some (.name name) ↔ piece = name ∧ name ≠ "" ∧ name ≠ "." ∧ name ≠ ".." := by
  constructor
  · intro h
    obtain rfl := eq_of_partOf h
    refine ⟨rfl, ?_, ?_, ?_⟩
    all_goals
      rintro rfl
      contradiction
  · rintro ⟨rfl, hEmpty, hHere, hUp⟩
    simp [partOf, hEmpty, hHere, hUp]

/-- The file name is the last part that counts. -/
theorem fileName?_eq_getLast? {path name : String} : fileName? path = some name ↔
    ((pieces path).filterMap partOf).getLast? = some (.name name) := by
  have hLast : fileName? path = some name ↔ (parts path).getLast? = some (.name name) := by
    unfold fileName?
    split
    · next hName => simp [hName]
    · next hOther => simpa using hOther name
  rw [hLast]
  by_cases hEmpty : path = ""
  · rw [hEmpty]
    exact Iff.rfl
  · rcases parts_cases hEmpty with ⟨-, hParts⟩ | ⟨-, hParts | ⟨hParts, -⟩⟩
    all_goals rw [hParts]
    all_goals cases (pieces path).filterMap partOf <;> simp [List.getLast?_cons]

theorem fileName?_eq_some {path name : String} : fileName? path = some name ↔ EndsIn path name := by
  rw [fileName?_eq_getLast?, List.getLast?_filterMap, List.findSome?_eq_some_iff]
  constructor
  · rintro ⟨trail, piece, before, hPieces, hPiece, hTrail⟩
    obtain ⟨rfl, hName⟩ := partOf_eq_name.1 hPiece
    refine ⟨before.reverse, trail.reverse, ?_, fun other hMem => ?_, hName⟩
    · rw [← List.reverse_reverse (pieces path), hPieces]
      simp
    · exact partOf_eq_none.1 (hTrail other (List.mem_reverse.1 hMem))
  · rintro ⟨before, trail, hPieces, hTrail, hName⟩
    refine ⟨trail.reverse, name, before.reverse, by simp [hPieces],
      partOf_eq_name.2 ⟨rfl, hName⟩, fun other hMem => ?_⟩
    exact partOf_eq_none.2 (hTrail other (List.mem_reverse.1 hMem))

theorem fileName?_join {name : String} (hName : IsPlain name) (folder : String) :
    fileName? (join folder name) = some name := by
  obtain ⟨-, hNe⟩ := partOf_eq_name.1 hName.part
  rw [fileName?_eq_some]
  by_cases hFolder : folder = ""
  · rw [hFolder, join_empty]
    exact ⟨[], [], pieces_eq_singleton hName.slash, by simp, hNe⟩
  · obtain ⟨before, hJoin, -⟩ := pieces_join hName.slash hFolder
    exact ⟨before, [], hJoin, by simp, hNe⟩

theorem extension?_join {name : String} (hName : IsPlain name) (folder : String) :
    extension? (join folder name) = extension? name := by
  rw [extension?_of_isPlain hName, extension?, fileName?_join hName, Option.bind_some]

end Path

namespace Disk

variable {d : Disk} {folder name : String} {place : Place}

theorem zero_not_mem_of_isName (h : isName name = true) : '\x00' ∉ name.toList := by
  unfold isName at h
  split at h
  · simp only [Bool.and_eq_true, Bool.not_eq_true', List.contains_eq_mem] at h
    simpa using h.1.2
  · contradiction

theorem checkPath_join (hName : isName name = true) (hFolder : checkPath folder = .ok ())
    (hSize : (Path.join folder name).utf8ByteSize ≤ maxPath) :
    checkPath (Path.join folder name) = .ok () := by
  obtain ⟨hNe, hZero, -⟩ := checkPath_eq_ok.1 hFolder
  have hZero' := zero_not_mem_of_isName hName
  refine checkPath_eq_ok.2 ⟨?_, ?_, hSize⟩
  · rw [Path.join_eq (Path.not_mem_of_isName hName) hNe]
    split <;> simp [hNe]
  · rw [Path.join_eq (Path.not_mem_of_isName hName) hNe]
    split <;> simp [hZero, hZero']

/-- What a path into a folder names. -/
theorem find_join {entry : Storage.Entry} (hName : isName name = true)
    (hFolder : d.find folder = .ok (place, .folder))
    (hSize : (Path.join folder name).utf8ByteSize ≤ maxPath)
    (hEntry : d.entry? (place ++ [name]) = some entry) :
    d.find (Path.join folder name) = .ok (place ++ [name], entry) := by
  have hCheck := checkPath_join hName (find_eq_ok.1 hFolder).1 hSize
  exact find_of_target (target_join hName hFolder hCheck) rfl hEntry

/-- A file directly in a folder with the extension of recordings. -/
def HoldsRecording (d : Disk) (folder name : String) : Prop :=
  ∃ place bytes, d.find folder = .ok (place, .folder) ∧
    d.entry? (place ++ [name]) = some (.file bytes) ∧ Path.extension? name = some "json"

end Disk

/-! ## Finding recordings -/

namespace Converter

variable {d : Disk} {folder : String} {paths : List String}

theorem recordings_eq_ok :
    recordings d folder = .ok paths ↔ ∃ names, d.list folder = .ok names ∧
      paths = (names.map (Path.join folder)).filter
        fun path => d.isFile path && isRecordingName path := by
  simp only [recordings, bind, Except.bind]
  cases d.list folder with
  | error fault => simp
  | ok names => simp [eq_comm]

/-- **A path is found exactly if it is that of a recording and not too long.** -/
theorem mem_recordings (h : recordings d folder = .ok paths) {path : String} :
    path ∈ paths ↔ ∃ name, d.HoldsRecording folder name ∧ path = Path.join folder name ∧
      path.utf8ByteSize ≤ maxPath := by
  obtain ⟨names, hNames, rfl⟩ := recordings_eq_ok.1 h
  obtain ⟨place, hFolder⟩ := Disk.find_of_list hNames
  have hPlace := Disk.locate_of_find hFolder
  simp only [List.mem_filter, List.mem_map, Bool.and_eq_true, isRecordingName, beq_iff_eq]
  constructor
  · rintro ⟨⟨name, hMem, rfl⟩, hFile, hExtension⟩
    have hIs := Disk.Lists.isName ⟨names, hNames, hMem⟩
    have hPlain := Path.isPlain_of_isName hIs
    obtain ⟨found, bytes, hFind⟩ := Disk.isFile_iff.1 hFile
    obtain ⟨hCheck, -, hEntry⟩ := Disk.find_eq_ok.1 hFind
    rw [Disk.locate_of_find hFind, d.locate_join hPlain, ← hPlace] at hEntry
    rw [Path.extension?_join hPlain] at hExtension
    exact ⟨name, ⟨place, bytes, hFolder, hEntry, hExtension⟩, rfl,
      (Disk.checkPath_eq_ok.1 hCheck).2.2⟩
  · rintro ⟨name, ⟨found, bytes, hFind, hEntry, hExtension⟩, rfl, hSize⟩
    have hIs := Disk.isName_of_stands hEntry
    obtain ⟨names', hNames', hMem⟩ :=
      Disk.lists_iff.2 ⟨found, hFind, Disk.mem_entries hEntry⟩
    obtain rfl : names = names' := by simpa [hNames] using hNames'
    refine ⟨⟨name, hMem, rfl⟩, ?_, ?_⟩
    · exact Disk.isFile_iff.2 ⟨_, bytes, Disk.find_join hIs hFind hSize hEntry⟩
    · rw [Path.extension?_join (Path.isPlain_of_isName hIs), hExtension]

/-- Recordings are found once, each in a place of its own. -/
theorem nodup_recordings (h : recordings d folder = .ok paths) : (paths.map d.locate).Nodup := by
  obtain ⟨names, hNames, rfl⟩ := recordings_eq_ok.1 h
  have hAll : ((names.map (Path.join folder)).map d.locate).Nodup := by
    rw [List.map_map]
    refine (Disk.nodup_of_list hNames).map_on fun name hMem other hOther hSame => ?_
    have hName := Path.isPlain_of_isName (Disk.Lists.isName ⟨names, hNames, hMem⟩)
    have hOther := Path.isPlain_of_isName (Disk.Lists.isName ⟨names, hNames, hOther⟩)
    simp only [Function.comp_apply, d.locate_join hName, d.locate_join hOther] at hSame
    exact List.singleton_inj.1 (List.append_inj' hSame rfl).2
  exact hAll.sublist (List.filter_sublist.map d.locate)

end Converter
end SessionReplay
