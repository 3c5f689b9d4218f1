import SessionReplay.Proofs.Conversion.File
import SessionReplay.Proofs.Json.Equality
import SessionReplay.Proofs.Script.Pieces
import SessionReplay.Proofs.Storage.Again
import SessionReplay.Service.Download

/-!
# What is saved of downloaded recordings

The entries that hold a readable recording are saved one after the other, each under a stem that
may depend on the number of those before it. A later one takes the file of an earlier one if their
stems are the same.

* `Entry.counts`: an entry holds a recording that can be read.
* `StoredRecording.HasStem`, `Saves`: the stem of a recording, and what is saved where.
* `SavedSoFar`: how things stand when some entries were saved; `save` is one more of them, and `run`
  all that are left.
* `saveEach_append`: saving goes on where it left off.
* `saveRecordings_keeps`: all entries are saved if each of them can be written, or else those before
  the first one that cannot.
-/

namespace SessionReplay

open Storage SessionReplay.Path

/-! ## What counts, and where it is saved -/

/-- An entry counts if it holds a recording, and this can be read. -/
def Entry.counts (e : Entry StoredRecording) : Bool :=
  match e.values.recording with
  | some text => (Json.parse text).isOk
  | none => false

/-- The name of a recording that has no name of its own. -/
def numberedName (number : Nat) : String := "recording_" ++ toString number

/-- The stem of a recording that is saved after `n` others: that of the name of its test, or else
its number. -/
inductive StoredRecording.HasStem (n : Nat) (r : StoredRecording) : String → Prop
  | named {name : String} (hName : r.testName = some name) (hNonempty : name ≠ "") :
    HasStem n r (fileStem name)
  | nameless (hNone : r.testName = none ∨ r.testName = some "") :
    HasStem n r (numberedName (n + 1))

/-- The entry at an index counts, and this is the path under which its document is saved. -/
inductive Saves (folder : String) (entries : List (Entry StoredRecording)) (i : Nat) :
    String → Json → Prop
  | entry {e : Entry StoredRecording} {text stem : String} {document : Json}
    (hEntry : entries[i]? = some e) (hText : e.values.recording = some text)
    (hDocument : Json.parse text = .ok document)
    (hStem : e.values.HasStem ((entries.take i).countP Entry.counts) stem) :
    Saves folder entries i (Path.join folder (stem ++ ".json")) document

theorem StoredRecording.document?_eq_some {r : StoredRecording} {document : Json} :
    r.document? = some document ↔
      ∃ text, r.recording = some text ∧ Json.parse text = .ok document := by
  unfold document?
  cases r.recording with
  | none => simp
  | some text => cases hParse : Json.parse text <;> simp [hParse, Except.toOption]

theorem Entry.counts_eq (e : Entry StoredRecording) : e.counts = e.values.document?.isSome := by
  unfold counts StoredRecording.document?
  cases e.values.recording with
  | none => rfl
  | some text => cases hParse : Json.parse text <;> simp [hParse, Except.toOption, Except.isOk,
      Except.toBool]

/-! ## Stems -/

theorem stemChar_of_isDigit {c : Char} (h : c.isDigit = true) : stemChar c = c := by
  have hAlphanum : c.isAlphanum = true := by simp [Char.isAlphanum, h]
  have hAll : ∀ n < 128, (Char.ofNat n).isDigit = true →
      stemChar (Char.ofNat n) = Char.ofNat n := by decide
  rw [← Char.ofNat_toNat c] at h ⊢
  exact hAll c.toNat (ascii_of_isAlphanum hAlphanum) h

/-- The name that a number gives is its own stem. -/
theorem fileStem_numberedName (number : Nat) :
    fileStem (numberedName number) = numberedName number := by
  have hFront : "recording_".toList.map stemChar = "recording_".toList := by decide
  have hDigits : (toString number).toList.map stemChar = (toString number).toList := by
    conv_rhs => rw [← List.map_id (toString number).toList]
    exact List.map_congr_left fun c hMem =>
      stemChar_of_isDigit (Script.isDigit_of_mem_toString hMem)
  apply String.toList_injective
  rw [fileStem, numberedName, String.toList_ofList, String.toList_append, List.map_append, hFront,
    hDigits]

theorem StoredRecording.stem_eq (r : StoredRecording) (number : Nat) :
    r.stem number =
      fileStem ((r.testName.filter fun name => !name.isEmpty).getD (numberedName number)) := rfl

theorem StoredRecording.hasStem_iff {n : Nat} {r : StoredRecording} {stem : String} :
    r.HasStem n stem ↔ stem = r.stem (n + 1) := by
  have hNumber := fileStem_numberedName (n + 1)
  rw [stem_eq]
  constructor
  · intro hStem
    cases hStem with
    | named hName hNonempty => simp [hName, Option.filter, hNonempty]
    | nameless hNone => rcases hNone with hNone | hNone <;> simp [hNone, Option.filter, hNumber]
  · rintro rfl
    cases hName : r.testName with
    | none => simpa [hNumber] using .nameless (.inl hName)
    | some name =>
      by_cases hEmpty : name = ""
      · simpa [hEmpty, Option.filter, hNumber] using .nameless (.inr (hEmpty ▸ hName))
      · simpa [hEmpty, Option.filter] using .named hName hEmpty

/-! ## Saving one more entry -/

section Indices

variable {folder path : String} {document : Json} {done todo : List (Entry StoredRecording)}
  {e : Entry StoredRecording} {i : Nat}

theorem saves_iff : Saves folder done i path document ↔
    ∃ e, done[i]? = some e ∧ e.values.document? = some document ∧
      path = recordingPath folder (e.values.stem ((done.take i).countP Entry.counts + 1)) := by
  constructor
  · intro hSaves
    cases hSaves with
    | entry hEntry hText hDocument hStem =>
      refine ⟨_, hEntry, StoredRecording.document?_eq_some.2 ⟨_, hText, hDocument⟩, ?_⟩
      rw [StoredRecording.hasStem_iff.1 hStem, recordingPath]
  · rintro ⟨e, hEntry, hDocument, rfl⟩
    obtain ⟨text, hText, hParse⟩ := StoredRecording.document?_eq_some.1 hDocument
    exact .entry hEntry hText hParse (StoredRecording.hasStem_iff.2 rfl)

theorem Saves.lt_length (h : Saves folder done i path document) : i < done.length := by
  obtain ⟨e, hEntry, -⟩ := saves_iff.1 h
  exact (List.getElem?_eq_some_iff.1 hEntry).1

/-- What is saved of an entry does not depend on those behind it. -/
theorem saves_append (hIndex : i < done.length) :
    Saves folder (done ++ todo) i path document ↔ Saves folder done i path document := by
  rw [saves_iff, saves_iff, List.getElem?_append_left hIndex,
    List.take_append_of_le_length (Nat.le_of_lt hIndex)]

/-- What is saved of the entries before an index. -/
theorem saves_take {entries : List (Entry StoredRecording)} {n : Nat} :
    Saves folder (entries.take n) i path document ↔
      i < n ∧ Saves folder entries i path document := by
  rw [saves_iff, saves_iff, List.getElem?_take, List.take_take]
  by_cases hLess : i < n
  · simp [hLess, Nat.min_eq_left (Nat.le_of_lt hLess)]
  · simp [hLess]

theorem saves_last : Saves folder (done ++ e :: todo) done.length path document ↔
    e.values.document? = some document ∧
      path = recordingPath folder (e.values.stem (done.countP Entry.counts + 1)) := by
  simp [saves_iff]

theorem saves_concat : Saves folder (done ++ [e]) i path document ↔
    Saves folder done i path document ∨ i = done.length ∧ e.values.document? = some document ∧
      path = recordingPath folder (e.values.stem (done.countP Entry.counts + 1)) := by
  rcases Nat.lt_trichotomy i done.length with hLess | rfl | hMore
  · simp [saves_append hLess, Nat.ne_of_lt hLess]
  · rw [saves_last]
    constructor
    · exact fun hLast => .inr ⟨rfl, hLast⟩
    · rintro (hEarlier | ⟨-, hLast⟩)
      · exact absurd hEarlier.lt_length (Nat.lt_irrefl _)
      · exact hLast
  · constructor
    · intro hSaves
      have hLength := hSaves.lt_length
      rw [List.length_append, List.length_singleton] at hLength
      omega
    · rintro (hEarlier | ⟨hIndex, -⟩)
      · have hLength := hEarlier.lt_length
        omega
      · omega

theorem Saves.plain (h : Saves folder done i path document) :
    ∃ name, IsPlain name ∧ path = join folder name := by
  obtain ⟨e, -, -, rfl⟩ := saves_iff.1 h
  exact ⟨_, isPlain_stem _ (by decide) (by decide), rfl⟩

/-- Different paths under which something is saved are the paths of different files. -/
theorem Saves.eq_of_locate {entries : List (Entry StoredRecording)} {j : Nat} {other : String}
    {document' : Json} (h : Saves folder done i path document)
    (h' : Saves folder entries j other document') {d : Disk}
    (hPlace : d.locate path = d.locate other) : path = other := by
  obtain ⟨name, hName, rfl⟩ := h.plain
  obtain ⟨name', hName', rfl⟩ := h'.plain
  rw [d.locate_join hName, d.locate_join hName'] at hPlace
  obtain ⟨-, hSame⟩ := List.append_inj' hPlace rfl
  rw [List.singleton_inj.1 hSame]

end Indices

/-- The places of the files of some entries. -/
def SavedAt (folder : String) (entries : List (Entry StoredRecording)) (d : Disk) (place : Place) :
    Prop :=
  ∃ i path document, Saves folder entries i path document ∧ place = d.locate path

/-- How things stand when some entries were saved in a folder: nothing but their files has changed,
and each of these holds what was saved there last. Where one was written, the path of the folder
leads to a folder. -/
structure SavedSoFar (folder : String) (done : List (Entry StoredRecording)) (made now : Disk) :
    Prop where
  edits : made.Edits (SavedAt folder done made) now
  reached : now = made ∨ ∃ found, made.reach (made.start folder) (pieces folder) = .ok found
  texts : ∀ i path document, Saves folder done i path document →
    (∀ j > i, ∀ other, ¬ Saves folder done j path other) → now.readText path = .ok document.pretty

section Steps

variable {folder path : String} {document : Json} {done todo : List (Entry StoredRecording)}
  {e : Entry StoredRecording} {d next : Disk}

-- Whether a file can be written is a question about a disk; it is not to be worked out on the way.
attribute [local irreducible] Disk.writeText

theorem saveEach_cons (folder : String) (saved : Nat) (e : Entry StoredRecording)
    (todo : List (Entry StoredRecording)) (d : Disk) :
    saveEach folder saved (e :: todo) d =
      match e.values.document? with
      | none => saveEach folder saved todo d
      | some document =>
        match d.writeText (recordingPath folder (e.values.stem (saved + 1))) document.pretty with
        | .ok d => saveEach folder (saved + 1) todo d
        | .error fault =>
          (.error (.storage (recordingPath folder (e.values.stem (saved + 1))) fault), d) := rfl

theorem saveEach_skip (hNone : e.values.document? = none) (saved : Nat) :
    saveEach folder saved (e :: todo) d = saveEach folder saved todo d := by
  rw [saveEach_cons, hNone]

theorem saveEach_save {saved : Nat} (hDocument : e.values.document? = some document)
    (hPath : path = recordingPath folder (e.values.stem (saved + 1)))
    (hWrite : d.writeText path document.pretty = .ok next) :
    saveEach folder saved (e :: todo) d = saveEach folder (saved + 1) todo next := by
  subst hPath
  rw [saveEach_cons, hDocument]
  simp only [hWrite]

theorem saveEach_stop {saved : Nat} {fault : Fault} (hDocument : e.values.document? = some document)
    (hPath : path = recordingPath folder (e.values.stem (saved + 1)))
    (hWrite : d.writeText path document.pretty = .error fault) :
    saveEach folder saved (e :: todo) d = (.error (.storage path fault), d) := by
  subst hPath
  rw [saveEach_cons, hDocument]
  simp only [hWrite]

/-- Saving goes on where it left off. -/
theorem saveEach_append (folder : String) (saved : Nat)
    (before after : List (Entry StoredRecording)) (d : Disk) :
    saveEach folder saved (before ++ after) d =
      match saveEach folder saved before d with
      | (.ok n, d) => saveEach folder n after d
      | (.error failure, d) => (.error failure, d) := by
  induction before generalizing saved d with
  | nil => rfl
  | cons e before ih =>
    rw [List.cons_append]
    cases hDocument : e.values.document? with
    | none => rw [saveEach_skip hDocument, saveEach_skip hDocument, ih]
    | some document =>
      cases hWrite : d.writeText (recordingPath folder (e.values.stem (saved + 1)))
          document.pretty with
      | ok next => rw [saveEach_save hDocument rfl hWrite, saveEach_save hDocument rfl hWrite, ih]
      | error fault => rw [saveEach_stop hDocument rfl hWrite, saveEach_stop hDocument rfl hWrite]

/-- What is saved from an index on, where those before it were saved. -/
theorem saveEach_from {entries : List (Entry StoredRecording)} {i saved n : Nat}
    (hEntry : entries[i]? = some e)
    (hBefore : saveEach folder saved (entries.take i) d = (.ok n, next)) :
    saveEach folder saved entries d = saveEach folder n (e :: entries.drop (i + 1)) next := by
  obtain ⟨hIndex, rfl⟩ := List.getElem?_eq_some_iff.1 hEntry
  have hSplit : entries = entries.take i ++ entries[i] :: entries.drop (i + 1) := by
    rw [List.getElem_cons_drop, List.take_append_drop]
  conv_lhs => rw [hSplit, saveEach_append, hBefore]

theorem countP_concat (done : List (Entry StoredRecording)) (e : Entry StoredRecording) :
    (done ++ [e]).countP Entry.counts =
      done.countP Entry.counts + if e.values.document?.isSome then 1 else 0 := by
  rw [List.countP_append, List.countP_singleton, Entry.counts_eq]

/-- The number of recordings that were saved is that of the entries that count. -/
theorem saveEach_count {saved n : Nat} {d' : Disk}
    (h : saveEach folder saved todo d = (.ok n, d')) :
    n = saved + todo.countP Entry.counts := by
  induction todo generalizing saved d with
  | nil => exact (Except.ok.inj (Prod.mk.inj h).1).symm
  | cons e todo ih =>
    rw [List.countP_cons, Entry.counts_eq]
    cases hDocument : e.values.document? with
    | none =>
      rw [saveEach_skip hDocument] at h
      simpa using ih h
    | some document =>
      cases hWrite : d.writeText (recordingPath folder (e.values.stem (saved + 1)))
          document.pretty with
      | ok next =>
        rw [saveEach_save hDocument rfl hWrite] at h
        have hCount := ih h
        simp only [Option.isSome_some, if_true]
        omega
      | error fault =>
        rw [saveEach_stop hDocument rfl hWrite] at h
        exact absurd (Prod.mk.inj h).1 (by simp)

end Steps

namespace SavedSoFar

variable {folder path : String} {document : Json} {done todo : List (Entry StoredRecording)}
  {e : Entry StoredRecording} {made now next : Disk} {fault : Fault}

theorem start (folder : String) (made : Disk) : SavedSoFar folder [] made made where
  edits := .refl _ made
  reached := .inl rfl
  texts i _ _ hSaves := absurd hSaves.lt_length (Nat.not_lt_zero i)

/-- What cannot be written now could not be written at the start. -/
theorem write_error_iff (h : SavedSoFar folder done made now)
    (hPath : ∃ name, IsPlain name ∧ path = join folder name) {text : String} :
    now.writeText path text = .error fault ↔ made.writeText path text = .error fault := by
  obtain ⟨name, hName, rfl⟩ := hPath
  rcases h.reached with rfl | ⟨found, hReach⟩
  · rfl
  · exact Disk.write_error_iff hName hReach h.edits

theorem exists_written (h : SavedSoFar folder done made now)
    (hPath : ∃ name, IsPlain name ∧ path = join folder name) {text : String}
    (hWrite : ∃ written, made.writeText path text = .ok written) :
    ∃ written, now.writeText path text = .ok written := by
  cases hNow : now.writeText path text with
  | ok written => exact ⟨written, rfl⟩
  | error fault =>
    obtain ⟨written, hWritten⟩ := hWrite
    rw [(h.write_error_iff hPath).1 hNow] at hWritten
    contradiction

/-- An entry that does not count changes nothing. -/
theorem skip (h : SavedSoFar folder done made now) (hNone : e.values.document? = none) :
    SavedSoFar folder (done ++ [e]) made now := by
  have hSame : Saves folder (done ++ [e]) = Saves folder done := by
    funext i path document
    simp [saves_concat, hNone]
  have hPlaces : SavedAt folder (done ++ [e]) made = SavedAt folder done made := by
    funext place
    simp only [SavedAt, hSame]
  refine ⟨?_, h.reached, ?_⟩
  · rw [hPlaces]
    exact h.edits
  · rw [hSame]
    exact h.texts

/-- **One more recording is saved.** -/
theorem save (h : SavedSoFar folder done made now) (hDocument : e.values.document? = some document)
    (hPath : path = recordingPath folder (e.values.stem (done.countP Entry.counts + 1)))
    (hWrite : now.writeText path document.pretty = .ok next) :
    SavedSoFar folder (done ++ [e]) made next := by
  have hSaves : Saves folder (done ++ [e]) done.length path document :=
    saves_concat.2 (.inr ⟨rfl, hDocument, hPath⟩)
  obtain ⟨hEdits, -⟩ := Disk.edits_of_write hWrite
  refine ⟨?_, .inr ?_, ?_⟩
  · refine (h.edits.mono ?_).trans (hEdits.mono ?_)
    · rintro place ⟨i, other, document', hEarlier, hPlace⟩
      exact ⟨i, other, document', saves_concat.2 (.inl hEarlier), hPlace⟩
    · rintro place rfl
      exact ⟨_, path, document, hSaves, Disk.locate_eq_of_home h.edits.home path⟩
  · obtain ⟨name, hName, rfl⟩ := hSaves.plain
    obtain ⟨found, hReach⟩ := Disk.reach_of_write hName hWrite
    rw [Disk.start_eq h.edits.home] at hReach
    exact ⟨found, Disk.reach_mono (fun place => (h.edits.folders place).1) hReach⟩
  · intro i other document' hOther hLast
    rcases saves_concat.1 hOther with hEarlier | ⟨-, hSame, rfl⟩
    · -- an earlier file stays as it is, since the new one is another
      have hNe : other ≠ path := by
        rintro rfl
        exact hLast done.length hEarlier.lt_length document hSaves
      have hText := h.texts i other document' hEarlier fun j hMore document'' hLater =>
        hLast j hMore document'' (saves_concat.2 (.inl hLater))
      exact Disk.readText_mono hEdits.changesOnly hText fun hPlace =>
        hNe (hOther.eq_of_locate hSaves hPlace)
    · rw [hDocument] at hSame
      obtain rfl := Option.some.inj hSame
      rw [← hPath]
      exact Converter.readText_of_writeText hWrite

/-- **All of them are saved**, if each can be written. -/
theorem run (h : SavedSoFar folder done made now)
    (hWrites : ∀ i path document, Saves folder (done ++ todo) i path document →
      ∃ written, made.writeText path document.pretty = .ok written) :
    ∃ d', saveEach folder (done.countP Entry.counts) todo now =
        (.ok ((done ++ todo).countP Entry.counts), d') ∧
      SavedSoFar folder (done ++ todo) made d' := by
  induction todo generalizing done now with
  | nil =>
    rw [List.append_nil]
    exact ⟨now, rfl, h⟩
  | cons e todo ih =>
    rw [List.append_cons] at hWrites ⊢
    cases hDocument : e.values.document? with
    | none =>
      have hCount := countP_concat done e
      rw [hDocument, if_neg (by simp), Nat.add_zero] at hCount
      rw [saveEach_skip hDocument, ← hCount]
      exact ih (h.skip hDocument) hWrites
    | some document =>
      obtain ⟨path, hPath⟩ : ∃ path,
          path = recordingPath folder (e.values.stem (done.countP Entry.counts + 1)) := ⟨_, rfl⟩
      have hSaves : Saves folder (done ++ [e] ++ todo) done.length path document :=
        (saves_append (by simp)).2 (saves_last.2 ⟨hDocument, hPath⟩)
      obtain ⟨next, hNext⟩ := h.exists_written hSaves.plain (hWrites _ _ _ hSaves)
      have hCount := countP_concat done e
      rw [hDocument, if_pos (by simp)] at hCount
      rw [saveEach_save hDocument hPath hNext, ← hCount]
      exact ih (h.save hDocument hPath hNext) hWrites

end SavedSoFar

/-! ## What is left -/

/-- What is left when some entries were saved in a folder that was made for them: where a file was
written stands what was saved there last, no other file has changed, and no more folders were
made. -/
structure Kept (folder : String) (entries : List (Entry StoredRecording)) (d made d' : Disk) :
    Prop where
  texts : ∀ i path document, Saves folder entries i path document →
    (∀ j > i, ∀ other, ¬ Saves folder entries j path other) → d'.readText path = .ok document.pretty
  others : d.ChangesOnly (SavedAt folder entries d) d'
  folders : ∀ place, d'.entry? place = some .folder ↔ made.entry? place = some .folder

section Calls

variable {folder : String} {entries done : List (Entry StoredRecording)} {d made now : Disk}

theorem SavedSoFar.kept (hMade : d.makeFolders folder = (.ok (), made))
    (h : SavedSoFar folder done made now) : Kept folder done d made now where
  texts := h.texts
  others := by
    have hFolders := d.makeFolders_changesOnly folder
    rw [hMade] at hFolders
    refine (hFolders.mono fun _ hNone => hNone.elim).trans (h.edits.changesOnly.mono ?_)
    rintro place ⟨i, path, document, hSaves, rfl⟩
    exact ⟨i, path, document, hSaves, Disk.locate_eq_of_home hFolders.home path⟩
  folders := h.edits.folders

theorem saveRecordings_eq (hMade : d.makeFolders folder = (.ok (), made)) :
    saveRecordings entries folder d = saveEach folder 0 entries made := by
  rw [saveRecordings, hMade]

/-- The entries before an index are saved, if each of them can be written. -/
theorem exists_savedSoFar {i : Nat} (hWrites : ∀ j < i, ∀ path document,
      Saves folder entries j path document →
        ∃ written, made.writeText path document.pretty = .ok written) :
    ∃ d', saveEach folder 0 (entries.take i) made =
        (.ok ((entries.take i).countP Entry.counts), d') ∧
      SavedSoFar folder (entries.take i) made d' := by
  refine (SavedSoFar.start folder made).run fun j path document hSaves => ?_
  obtain ⟨hEarlier, hOwn⟩ := saves_take.1 hSaves
  exact hWrites j hEarlier path document hOwn

/-- **What is saved of downloaded recordings.** Where the folder can be made, an entry counts
exactly if its recording is there and can be read. If all entries that count can be written, the
answer is their number, each file holds the last document that is saved under its path, and no other
file changes. If one cannot be written, and all before it can, the answer is its fault; those before
it are saved, and none after it. -/
theorem saveRecordings_keeps (hMade : d.makeFolders folder = (.ok (), made)) :
    ((∀ i path document, Saves folder entries i path document →
        ∃ written, made.writeText path document.pretty = .ok written) →
      ∃ d', saveRecordings entries folder d = (.ok (entries.countP Entry.counts), d') ∧
        Kept folder entries d made d') ∧
    ∀ i path document fault, Saves folder entries i path document →
      made.writeText path document.pretty = .error fault →
      (∀ j < i, ∀ other document', Saves folder entries j other document' →
        ∃ written, made.writeText other document'.pretty = .ok written) →
      ∃ d', saveRecordings entries folder d = (.error (.storage path fault), d') ∧
        Kept folder (entries.take i) d made d' := by
  rw [saveRecordings_eq hMade]
  constructor
  · intro hWrites
    have hAll := exists_savedSoFar (i := entries.length) fun j _ => hWrites j
    rw [List.take_length] at hAll
    obtain ⟨d', hSaved, hSoFar⟩ := hAll
    exact ⟨d', hSaved, hSoFar.kept hMade⟩
  · intro i path document fault hSaves hFault hWrites
    obtain ⟨d', hSaved, hSoFar⟩ := exists_savedSoFar hWrites
    have hNow := (hSoFar.write_error_iff hSaves.plain).2 hFault
    obtain ⟨e, hEntry, hDocument, hPath⟩ := saves_iff.1 hSaves
    refine ⟨d', ?_, hSoFar.kept hMade⟩
    rw [saveEach_from hEntry hSaved]
    exact saveEach_stop hDocument hPath hNow

/-- What comes of a write, where the disk that it leaves does not matter. -/
theorem error_of_map {result : Except Fault Disk} {fault : Fault}
    (h : result.map (fun _ => ()) = .error fault) : result = .error fault := by
  cases result with
  | ok written => contradiction
  | error other => simpa [Except.map] using h

theorem exists_of_map {result : Except Fault Disk} (h : result.map (fun _ => ()) = .ok ()) :
    ∃ written, result = .ok written := by
  cases result with
  | ok written => exact ⟨written, rfl⟩
  | error other => contradiction

/-- An empty folder. -/
def emptied : Disk := (Disk.empty []).put ["out"] .folder

/-- A folder in which another folder stands in the way of a recording. -/
def blocked : Disk := emptied.put ["out", "b.json"] .folder

/-- The first recording has no name, the second cannot be read, and the third cannot be written. -/
theorem saveRecordings_keeps_blocked :
    let entries : List (Entry StoredRecording) :=
      [⟨⟨none, some "7"⟩⟩, ⟨⟨some "a", some "7,"⟩⟩, ⟨⟨some "B", some "8"⟩⟩]
    ∃ d', blocked.makeFolders "out" = (.ok (), blocked) ∧
      saveRecordings entries "out" blocked = (.error (.storage "out/b.json" .isFolder), d') ∧
      d'.readText "out/recording_1.json" = .ok "7" := by
  intro entries
  have hMade : blocked.makeFolders "out" = (.ok (), blocked) :=
    Disk.makeFolders_of_isFolder (by decide +kernel)
  have hFirst : Saves "out" entries 0 "out/recording_1.json" (.ofWord 7) :=
    saves_iff.2 ⟨_, rfl, by decide +kernel, by decide +kernel⟩
  have hThird : Saves "out" entries 2 "out/b.json" (.ofWord 8) :=
    saves_iff.2 ⟨_, rfl, by decide +kernel, by decide +kernel⟩
  have hOnly : ∀ j < 2, ∀ path document, Saves "out" entries j path document →
      j = 0 ∧ path = "out/recording_1.json" ∧ document = .ofWord 7 := by
    intro j hEarlier path document hSaves
    obtain ⟨e, hEntry, hDocument, rfl⟩ := saves_iff.1 hSaves
    obtain rfl | rfl : j = 0 ∨ j = 1 := by omega
    · obtain rfl := Option.some.inj hEntry
      have hOwn : StoredRecording.document? ⟨none, some "7"⟩ = some (.ofWord 7) := by
        decide +kernel
      rw [hOwn] at hDocument
      exact ⟨rfl, by decide +kernel, (Option.some.inj hDocument).symm⟩
    · obtain rfl := Option.some.inj hEntry
      have hOwn : StoredRecording.document? ⟨some "a", some "7,"⟩ = none := by decide +kernel
      rw [hOwn] at hDocument
      contradiction
  have hFault : blocked.writeText "out/b.json" (Json.ofWord 8).pretty = .error .isFolder :=
    error_of_map (by decide +kernel)
  have hWritten : ∃ written, blocked.writeText "out/recording_1.json" (Json.ofWord 7).pretty =
      .ok written := exists_of_map (by decide +kernel)
  obtain ⟨d', hSaved, hKept⟩ := (saveRecordings_keeps hMade).2 2 _ _ _ hThird hFault
    fun j hEarlier path document hSaves => by
      obtain ⟨-, rfl, rfl⟩ := hOnly j hEarlier path document hSaves
      exact hWritten
  have hLast : ∀ j > 0, ∀ other, ¬ Saves "out" (entries.take 2) j "out/recording_1.json" other := by
    intro j hLater other hSaves
    obtain ⟨hEarlier, hSame⟩ := saves_take.1 hSaves
    obtain ⟨rfl, -⟩ := hOnly j hEarlier _ _ hSame
    exact absurd hLater (Nat.lt_irrefl 0)
  exact ⟨d', hMade, hSaved, hKept.texts 0 _ _ (saves_take.2 ⟨by decide, hFirst⟩) hLast⟩

end Calls
end SessionReplay
