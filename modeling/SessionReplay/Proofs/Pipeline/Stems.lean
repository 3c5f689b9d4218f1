import Mathlib.Data.List.Forall2
import SessionReplay.Proofs.Pipeline.OwnScript

/-!
# Stems

A stem is made of small letters, digits and underscores only, so that a file that is named by it
lies in its folder, whatever the name is that the stem was made from.

* `IsStemChar`: the characters of stems.
* `SameInStem`, `fileStem_eq_iff`: which names share a stem.
* `Pipeline.Stored`, `Converter.Scripted`: where a recording is stored, and the script that it is
  converted to.
* `Pipeline.stems_safe`: all of this for every name.
-/

namespace SessionReplay

open Storage

/-! ## Characters -/

def IsStemChar (c : Char) : Prop := ('a' ≤ c ∧ c ≤ 'z') ∨ ('0' ≤ c ∧ c ≤ '9') ∨ c = '_'

instance (c : Char) : Decidable (IsStemChar c) := inferInstanceAs (Decidable (_ ∨ _))

/-- Characters that stand for the same in a stem: one letter in either case, one digit, or any two
that are neither. -/
def SameInStem (c c' : Char) : Prop :=
  c.toLower = c'.toLower ∨ c.isAlphanum = false ∧ c'.isAlphanum = false

instance (c c' : Char) : Decidable (SameInStem c c') := inferInstanceAs (Decidable (_ ∨ _))

theorem stemChar_of_isAlphanum {c : Char} (h : c.isAlphanum = true) : stemChar c = c.toLower :=
  if_pos h

theorem stemChar_of_not_isAlphanum {c : Char} (h : c.isAlphanum = false) : stemChar c = '_' :=
  if_neg (by simp [h])

theorem isAlphanum_toLower (c : Char) : c.toLower.isAlphanum = c.isAlphanum := by
  cases hAlphanum : c.isAlphanum with
  | true =>
    have hAll : ∀ n < 128, (Char.ofNat n).isAlphanum = true →
        (Char.ofNat n).toLower.isAlphanum = true := by decide
    rw [← Char.ofNat_toNat c] at hAlphanum ⊢
    exact hAll c.toNat (ascii_of_isAlphanum (by rwa [Char.ofNat_toNat] at hAlphanum)) hAlphanum
  | false =>
    have hUpper : ¬ c.isUpper = true := by
      intro hUpper
      have hLetters : c.isAlphanum = (c.isUpper || c.isLower || c.isDigit) := rfl
      simp [hLetters, hUpper] at hAlphanum
    have hKept : c.toLower = c := dif_neg fun h => hUpper (decide_eq_true h)
    rw [hKept, hAlphanum]

theorem isStemChar_stemChar (c : Char) : IsStemChar (stemChar c) := by
  cases hAlphanum : c.isAlphanum with
  | true =>
    have hAll : ∀ n < 128, IsStemChar (stemChar (Char.ofNat n)) := by decide
    rw [← Char.ofNat_toNat c]
    exact hAll c.toNat (ascii_of_isAlphanum hAlphanum)
  | false =>
    rw [stemChar_of_not_isAlphanum hAlphanum]
    decide

/-- A letter or a digit is not what all else becomes. -/
theorem stemChar_ne_of_isAlphanum {c c' : Char} (h : c.isAlphanum = true)
    (h' : c'.isAlphanum = false) : stemChar c ≠ stemChar c' := by
  rw [stemChar_of_isAlphanum h, stemChar_of_not_isAlphanum h']
  intro hLine
  have hKept := isAlphanum_toLower c
  rw [hLine, h] at hKept
  exact absurd hKept (by decide)

/-- Letters and digits are told from all else also without their case. -/
theorem isAlphanum_of_toLower {c c' : Char} (h : c.toLower = c'.toLower) :
    c.isAlphanum = c'.isAlphanum := by
  rw [← isAlphanum_toLower c, h, isAlphanum_toLower]

theorem stemChar_eq_iff (c c' : Char) : stemChar c = stemChar c' ↔ SameInStem c c' := by
  unfold SameInStem
  cases h : c.isAlphanum with
  | true =>
    cases h' : c'.isAlphanum with
    | true => simp [stemChar_of_isAlphanum, h, h']
    | false =>
      have hFolded : c.toLower ≠ c'.toLower := fun hSame => by
        simpa [h, h'] using isAlphanum_of_toLower hSame
      simp [stemChar_ne_of_isAlphanum h h', hFolded]
  | false =>
    cases h' : c'.isAlphanum with
    | true =>
      have hFolded : c.toLower ≠ c'.toLower := fun hSame => by
        simpa [h, h'] using isAlphanum_of_toLower hSame
      simp [(stemChar_ne_of_isAlphanum h' h).symm, hFolded]
    | false => simp [stemChar_of_not_isAlphanum, h, h']

/-! ## Stems -/

theorem isStemChar_of_mem {name : String} {c : Char} (h : c ∈ (fileStem name).toList) :
    IsStemChar c := by
  rw [fileStem, String.toList_ofList] at h
  obtain ⟨own, -, rfl⟩ := List.mem_map.1 h
  exact isStemChar_stemChar own

/-- Two names share a stem exactly if they are alike at every position. -/
theorem fileStem_eq_iff {m n : String} :
    fileStem m = fileStem n ↔ List.Forall₂ SameInStem m.toList n.toList := by
  have hChars : fileStem m = fileStem n ↔ m.toList.map stemChar = n.toList.map stemChar := by
    rw [← String.toList_inj, fileStem, fileStem, String.toList_ofList, String.toList_ofList]
  have hSame : SameInStem = fun c c' => stemChar c = stemChar c' := by
    funext c c'
    exact propext (stemChar_eq_iff c c').symm
  rw [hChars, hSame, ← List.forall₂_eq_eq_eq, List.forall₂_map_left_iff, List.forall₂_map_right_iff]

/-! ## Where files are stored -/

variable {p : Pipeline} {j : Job}

/-- The recording of a job is stored in the folder for recordings itself, and is found under the
stem of the job. -/
structure Pipeline.Stored (p : Pipeline) (j : Job) (d d' : Disk) (path : String) : Prop where
  joined : path = Path.join p.recordingsDir (j.stem ++ ".json")
  stem : Path.stem? path = some j.stem
  file : d'.find path = .ok (d'.locate p.recordingsDir ++ [j.stem ++ ".json"],
    .file j.recording.pretty.toUTF8)
  changes : d.ChangesOnly (· = d.locate p.recordingsDir ++ [j.stem ++ ".json"]) d'

/-- The script of a name is put into the folder for scripts itself. -/
structure Converter.Scripted (c : Converter) (name : String) (source : Place) (h h' : Host)
    (converted : Converted) : Prop where
  joined : converted.script = Path.join c.output (scriptName name)
  place : h'.disk.locate converted.script = h'.disk.locate c.output ++ [scriptName name]
  changes : h.disk.ChangesOnly (fun place => place = h.disk.locate c.log ∨ place = source ∨
    place = h.disk.locate c.output ++ [scriptName name]) h'.disk

namespace Pipeline

theorem stem?_of_named (p : Pipeline) (hName : j.testName ≠ "") :
    Path.stem? (p.recordingPath j) = some j.stem := by
  rw [p.stem?_recordingPath, Job.fallbackTitle, if_neg hName]

theorem locate_recordingPath (p : Pipeline) (j : Job) (d : Disk) :
    d.locate (p.recordingPath j) = d.locate p.recordingsDir ++ [j.stem ++ ".json"] :=
  d.locate_join (isPlain_stem j.testName (by decide) (by decide)) p.recordingsDir

theorem stored_of_persist (hName : j.testName ≠ "") {d d' : Disk} {path : String}
    (h : p.persist j d = (.ok path, d')) : p.Stored j d d' path := by
  simp only [persist, store] at h
  cases hFolders : d.makeFolders p.recordingsDir with
  | mk result made =>
    have hMade := d.makeFolders_changesOnly p.recordingsDir
    simp only [hFolders] at h hMade
    cases result with
    | error fault => simp [Except.map] at h
    | ok =>
      cases hWrite : made.writeText (p.recordingPath j) j.recording.pretty with
      | error fault => simp [hWrite, Except.map] at h
      | ok written =>
        simp only [hWrite, Except.map, Prod.mk.injEq, Except.ok.injEq] at h
        obtain ⟨rfl, rfl⟩ := h
        obtain ⟨hEdits, hFind⟩ := Disk.edits_of_write hWrite
        rw [locate_recordingPath] at hFind
        rw [Disk.locate_eq_of_home hMade.home, locate_recordingPath] at hEdits
        refine ⟨rfl, p.stem?_of_named hName, ?_, ?_⟩
        · rw [hFind, Disk.locate_eq_of_home hEdits.home]
        · exact (hMade.mono fun _ hNone => hNone.elim).trans hEdits.changesOnly

end Pipeline

theorem Job.scriptName_stem (j : Job) : scriptName j.stem = scriptName j.testName := by
  rw [scriptName, Job.stem, fileStem_fileStem, scriptName]

/-- Where a script is put follows from the name of its source alone. -/
theorem Converter.scripted_of_convert {c : Converter} {path stem : String} {h h' : Host}
    {converted : Converted} (hStem : Path.stem? path = some stem)
    (hConvert : c.convert path h = (.ok converted, h')) :
    c.Scripted stem (h.disk.locate path) h h' converted := by
  have hConversion := c.conversion path h
  rw [hConvert] at hConversion
  cases hConversion with
  | @done own r disk written after hCompiles hFolders hWrite hRemoval =>
    obtain rfl := Option.some.inj (hStem.symm.trans hCompiles.named)
    have hChanges := changes_of_done hFolders hWrite hRemoval
    unfold Touches at hChanges
    rw [c.locate_scriptPath] at hChanges
    refine ⟨?_, ?_, hChanges⟩ <;> dsimp only
    · rw [scriptPath]
    · exact c.locate_scriptPath _ stem

/-- **Stems are safe, and the same at every stage.** The stem of any name has as many characters as
the name, all of them small letters, digits or underscores, and is its own stem. Two names share
their stem exactly if they are equally long and have at every position the same letter in either
case, the same digit, or two characters that are neither letters nor digits of ASCII. So for every
name but the empty one the recording of a job is stored in the folder for recordings itself, and no
other file changes; and its conversion, which finds the stem of the job in the name of the file,
puts the script into the folder for scripts itself, under the name that belongs to the test, and
changes no file but this, the recording and the log. -/
theorem Pipeline.stems_safe (p : Pipeline) :
    (∀ name : String, (fileStem name).length = name.length ∧
      (∀ c ∈ (fileStem name).toList, IsStemChar c) ∧ fileStem (fileStem name) = fileStem name) ∧
    (∀ m n, fileStem m = fileStem n ↔ List.Forall₂ SameInStem m.toList n.toList) ∧
    ∀ j : Job, j.testName ≠ "" →
      (∀ d d' path, p.persist j d = (.ok path, d') → p.Stored j d d' path) ∧
      ∀ (c : Converter) h h' converted,
        c.convert (p.recordingPath j) h = (.ok converted, h') →
          c.Scripted j.testName (h.disk.locate (p.recordingPath j)) h h' converted := by
  refine ⟨fun name => ⟨length_fileStem name, fun _ => isStemChar_of_mem, fileStem_fileStem name⟩,
    fun _ _ => fileStem_eq_iff, fun j hName => ⟨fun _ _ _ => stored_of_persist hName, ?_⟩⟩
  intro c h h' converted hConvert
  obtain ⟨hScript, hPlace, hChanges⟩ :=
    Converter.scripted_of_convert (p.stem?_of_named hName) hConvert
  rw [j.scriptName_stem] at hScript hPlace hChanges
  exact ⟨hScript, hPlace, hChanges⟩

/-- A job whose name is a path that leads out of the folder. -/
def climbing : Job := ⟨⟨0⟩, "../Über b", "r", .object [], ⟨0, 0⟩⟩

theorem Pipeline.stems_safe_climbing :
    let host (d : Disk) : Host := { disk := d, clock := fun _ => ⟨0, 0⟩ }
    climbing.testName ≠ "" ∧
    ∃ path d converted h', standard.persist climbing (.empty []) = (.ok path, d) ∧
      path = "recordings/____ber_b.json" ∧ standard.Stored climbing (.empty []) d path ∧
      standard.converter.convert path (host d) = (.ok converted, h') ∧
      converted.script = "cypress/e2e/____ber_b.cy.js" ∧
      standard.converter.Scripted "../Über b" (d.locate path) (host d) h' converted := by
  intro host
  have hName : climbing.testName ≠ "" := by decide
  have hFirst : (standard.persist climbing (.empty [])).1.toOption =
      some "recordings/____ber_b.json" := by decide +kernel
  have hSecond : (standard.converter.convert "recordings/____ber_b.json"
      (host (standard.persist climbing (.empty [])).2)).1.toOption.map Converted.script =
        some "cypress/e2e/____ber_b.cy.js" := by decide +kernel
  obtain ⟨hPersist, hConvert⟩ := (stems_safe standard).2.2 climbing hName
  generalize hStored : standard.persist climbing (.empty []) = stored at hFirst hSecond
  obtain ⟨result, d⟩ := stored
  cases result with
  | error fault => contradiction
  | ok path =>
    obtain rfl : path = "recordings/____ber_b.json" := Option.some.inj hFirst
    generalize hConverted : standard.converter.convert "recordings/____ber_b.json" (host d) =
      out at hSecond
    obtain ⟨outcome, h'⟩ := out
    cases outcome with
    | error failure => contradiction
    | ok converted =>
      exact ⟨hName, _, d, converted, h', rfl, rfl, hPersist _ _ _ hStored, hConverted,
        Option.some.inj hSecond, hConvert _ _ _ _ hConverted⟩

end SessionReplay
