import SessionReplay.Conversion.Basic
import SessionReplay.Proofs.Storage.Locate

/-!
# Names of scripts

A script is named after the stem of its recording. It never takes the place of its recording,
whatever that is called and wherever scripts are put.

* `Path.splitName_dot`, `Path.splitName_eq_some`: the stem and the extension of a name that is put
  together, and that every name with an extension is.
* `fileStem_fileStem`: a stem is its own stem.
* `isPlain_stem`: a stem with an extension is a name.
* `splitName_scriptName`: the extension of a script is `js`.
* `Converter.locate_scriptPath`: the place of a script.
* `Converter.locate_scriptPath_ne`: it is not that of the recording.
-/

namespace SessionReplay

open Storage

/-! ## Stems and extensions -/

/-- What stands behind the last dot is the extension, if there is something before it. -/
theorem Path.splitName_dot {base ext : String} (hExt : '.' ∉ ext.toList) (hBase : base ≠ "") :
    Path.splitName (base ++ "." ++ ext) = (base, some ext) := by
  have hReverse : (base ++ "." ++ ext).toList.reverse =
      ext.toList.reverse ++ '.' :: base.toList.reverse := by simp
  have hPlain : ∀ c ∈ ext.toList.reverse, (c != '.') = true := by
    intro c hMem
    rw [bne_iff_ne]
    rintro rfl
    exact hExt (List.mem_reverse.1 hMem)
  have hNonempty : base.toList ≠ [] := fun h => hBase (String.toList_injective (by simpa using h))
  unfold Path.splitName
  simp only [hReverse, List.takeWhile_append_of_pos hPlain, List.dropWhile_append_of_pos hPlain]
  simp [hNonempty]

/-- A name with an extension is put together from that and something before it. -/
theorem Path.splitName_eq_some {name ext : String} : (Path.splitName name).2 = some ext ↔
    ∃ base, base ≠ "" ∧ '.' ∉ ext.toList ∧ name = base ++ "." ++ ext := by
  constructor
  · intro h
    have hSplit := List.takeWhile_append_dropWhile (p := (· != '.')) (l := name.toList.reverse)
    unfold Path.splitName at h
    dsimp only at h
    split at h
    · contradiction
    · next hBefore =>
      cases hDrop : name.toList.reverse.dropWhile (· != '.') with
      | nil => simp [hDrop] at hBefore
      | cons c rest =>
        have hDot : c = '.' := by
          simpa [hDrop] using List.head?_dropWhile_not (· != '.') name.toList.reverse
        have hExt : ext.toList = (name.toList.reverse.takeWhile (· != '.')).reverse := by
          rw [← Option.some.inj h, String.toList_ofList]
        refine ⟨String.ofList rest.reverse, ?_, ?_, ?_⟩
        · simpa [hDrop] using hBefore
        · rw [hExt, List.mem_reverse]
          intro hMem
          simpa using List.all_eq_true.1 List.all_takeWhile _ hMem
        · have hName := congrArg List.reverse hSplit
          rw [hDrop, hDot] at hName
          apply String.toList_injective
          simpa [hExt] using hName.symm
  · rintro ⟨base, hBase, hExt, rfl⟩
    rw [Path.splitName_dot hExt hBase]

theorem Path.extension?_of_isPlain {name : String} (h : Path.IsPlain name) :
    Path.extension? name = (Path.splitName name).2 := by
  rw [Path.extension?, Path.fileName?, Path.parts_of_isPlain h]
  rfl

theorem length_fileStem (name : String) : (fileStem name).length = name.length := by
  simp [fileStem, ← String.length_toList]

theorem splitName_scriptName (stem : String) :
    Path.splitName (scriptName stem) = (fileStem stem ++ ".cy", some "js") := by
  have hName : scriptName stem = fileStem stem ++ ".cy" ++ "." ++ "js" := by
    simp [scriptName, String.append_assoc]
  have hBase : fileStem stem ++ ".cy" ≠ "" := by simp
  rw [hName, Path.splitName_dot (by decide) hBase]

/-- The name of a script is longer than what it is made of, so that no recording has it. -/
theorem fileName_ne_scriptName {path stem : String} (h : Path.stem? path = some stem) :
    Path.fileName? path ≠ some (scriptName stem) := by
  intro hName
  rw [Path.stem?, hName, Option.map_some, splitName_scriptName] at h
  have hStem : fileStem stem ++ ".cy" = stem := Option.some.inj h
  have hLength := congrArg String.length hStem
  rw [String.length_append, length_fileStem] at hLength
  have hDot : ".cy".length = 3 := rfl
  omega

theorem ascii_of_isAlphanum {c : Char} (h : c.isAlphanum = true) : c.toNat < 128 := by
  have hKinds : (c.isUpper || c.isLower || c.isDigit) = true := h
  rcases Bool.or_eq_true_iff.1 hKinds with hLetter | hDigit
  · rcases Bool.or_eq_true_iff.1 hLetter with hUpper | hLower
    · have hLast : c.toNat ≤ 'Z'.toNat := (of_decide_eq_true hUpper).2
      exact Nat.lt_of_le_of_lt hLast (by decide)
    · have hLast : c.toNat ≤ 'z'.toNat := of_decide_eq_true (Bool.and_eq_true_iff.1 hLower).2
      exact Nat.lt_of_le_of_lt hLast (by decide)
  · have hLast : c.toNat ≤ '9'.toNat := of_decide_eq_true (Bool.and_eq_true_iff.1 hDigit).2
    exact Nat.lt_of_le_of_lt hLast (by decide)

theorem stemChar_stemChar (c : Char) : stemChar (stemChar c) = stemChar c := by
  by_cases hAlphanum : c.isAlphanum = true
  · have hAll : ∀ n < 128, stemChar (stemChar (Char.ofNat n)) = stemChar (Char.ofNat n) := by
      decide
    rw [← Char.ofNat_toNat c]
    exact hAll c.toNat (ascii_of_isAlphanum hAlphanum)
  · have hLine : stemChar c = '_' := if_neg hAlphanum
    rw [hLine]
    decide

/-- A stem is its own stem. -/
theorem fileStem_fileStem (name : String) : fileStem (fileStem name) = fileStem name := by
  simp [fileStem, Function.comp_def, stemChar_stemChar]

theorem stemChar_ne_slash (c : Char) : stemChar c ≠ '/' := by
  unfold stemChar
  split
  · next hAlphanum =>
    intro hSlash
    unfold Char.toLower at hSlash
    split at hSlash
    · next hUpper =>
      have hLow : 65 ≤ c.val.toNat := hUpper.1
      have hHigh : c.val.toNat ≤ 90 := hUpper.2
      have hVal : (c.val + 32).toNat = 47 := congrArg (fun c : Char => c.val.toNat) hSlash
      rw [UInt32.toNat_add] at hVal
      have hStep : (32 : UInt32).toNat = 32 := rfl
      omega
    · rw [hSlash] at hAlphanum
      contradiction
  · decide

/-- A stem with a suffix of more than two characters is a name. -/
theorem isPlain_stem (name : String) {suffix : String} (hLong : 2 < suffix.length)
    (hSlash : '/' ∉ suffix.toList) : Path.IsPlain (fileStem name ++ suffix) where
  part := by
    have hLength : (fileStem name ++ suffix).length = name.length + suffix.length := by
      rw [String.length_append, length_fileStem]
    have hNe : ∀ s : String, s.length ≤ 2 → fileStem name ++ suffix ≠ s := by
      rintro s hShort rfl
      omega
    have hEmpty := hNe "" (by decide)
    have hHere := hNe "." (by decide)
    have hUp := hNe ".." (by decide)
    simp only [Path.partOf, String.isEmpty_iff, Bool.or_eq_true, beq_iff_eq, hEmpty, hHere, hUp,
      or_self, if_false]
  slash := by
    intro hMem
    simp only [fileStem, String.toList_append, String.toList_ofList, List.mem_append,
      List.mem_map] at hMem
    rcases hMem with ⟨c, -, hc⟩ | hMem
    · exact stemChar_ne_slash c hc
    · exact hSlash hMem

theorem isPlain_scriptName (stem : String) : Path.IsPlain (scriptName stem) :=
  isPlain_stem stem (by decide) (by decide)

/-! ## Places of scripts -/

namespace Converter

theorem locate_scriptPath (c : Converter) (d : Disk) (stem : String) :
    d.locate (c.scriptPath stem) = d.locate c.output ++ [scriptName stem] :=
  d.locate_join (isPlain_scriptName stem) c.output

theorem scriptPath_inj (c : Converter) (d : Disk) {stem other : String}
    (h : d.locate (c.scriptPath stem) = d.locate (c.scriptPath other)) :
    c.scriptPath stem = c.scriptPath other := by
  rw [c.locate_scriptPath, c.locate_scriptPath] at h
  obtain ⟨-, hName⟩ := List.append_inj' h rfl
  rw [scriptPath, scriptPath, List.singleton_inj.1 hName]

/-- **No script takes the place of its recording.** -/
theorem locate_scriptPath_ne (c : Converter) (d : Disk) {path stem : String}
    (h : Path.stem? path = some stem) : d.locate (c.scriptPath stem) ≠ d.locate path := by
  obtain ⟨name, hName, -⟩ := Option.map_eq_some_iff.1 h
  obtain ⟨folder, hFolder⟩ := d.locate_of_fileName hName
  rw [c.locate_scriptPath, hFolder]
  intro hSame
  obtain ⟨-, hLast⟩ := List.append_inj' hSame rfl
  exact fileName_ne_scriptName h (by rw [hName, List.singleton_inj.1 hLast])

end Converter
end SessionReplay
