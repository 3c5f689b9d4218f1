import SessionReplay.Proofs.Service.Saving

/-!
# Recordings without a name

A recording without a name is saved under its number. This is the file of an earlier recording only
if that has been given the very name that the number makes, up to what its stem leaves out.

* `numberedName_injective`, `Saves.number_lt`: different numbers make different names, and of two
  recordings the later one has the higher number.
* `nameless_takes_file`: a recording without a name may take the file of an earlier one.
* `nameless_takes_file_iff`: it does so exactly if the earlier one was named like that.
-/

namespace SessionReplay

open Storage SessionReplay.Path

theorem numberedName_injective : Function.Injective numberedName := by
  intro m n hSame
  have hDigits : Nat.toDigits 10 m = Nat.toDigits 10 n := by
    simpa [numberedName, Nat.toString_eq_ofList_toDigits] using congrArg String.toList hSame
  have hNumbers := congrArg (Nat.ofDigitChars 10 · 0) hDigits
  simpa using hNumbers

section Files

variable {folder path other : String} {document document' : Json} {i j n : Nat}
  {entries : List (Entry StoredRecording)} {e e' : Entry StoredRecording} {d d₁ d₂ : Disk}

/-- Of two recordings the later one has the higher number. -/
theorem Saves.number_lt (h : Saves folder entries j path document) (hLess : j < i) :
    (entries.take j).countP Entry.counts < (entries.take i).countP Entry.counts := by
  obtain ⟨e, hEntry, hDocument, -⟩ := saves_iff.1 h
  obtain ⟨hIndex, rfl⟩ := List.getElem?_eq_some_iff.1 hEntry
  have hNext := countP_concat (entries.take j) entries[j]
  rw [hDocument, if_pos (by simp), List.take_append_getElem] at hNext
  have hPrefix : entries.take (j + 1) <+: entries.take i := List.take_prefix_take_left hLess
  have hLe := hPrefix.sublist.countP_le (p := Entry.counts)
  omega

theorem locate_stem_eq {stem stem' : String} (hName : IsPlain (stem ++ ".json"))
    (hName' : IsPlain (stem' ++ ".json")) :
    d.locate (join folder (stem ++ ".json")) = d.locate (join folder (stem' ++ ".json")) ↔
      stem = stem' := by
  rw [d.locate_join hName, d.locate_join hName', List.append_cancel_left_eq, List.singleton_inj,
    ← String.toList_inj, String.toList_append, String.toList_append, List.append_cancel_right_eq,
    String.toList_inj]

theorem StoredRecording.HasStem.plain {r : StoredRecording} {stem : String}
    (h : r.HasStem n stem) : IsPlain (stem ++ ".json") := by
  rw [hasStem_iff.1 h]
  exact isPlain_stem _ (by decide) (by decide)

/-- The file of an earlier recording is taken exactly if that was named like the number. -/
theorem Saves.locate_eq_iff (h : Saves folder entries j other document') (hLess : j < i)
    (hEntry : entries[j]? = some e')
    (hNumber : (entries.take i).countP Entry.counts = n) :
    d.locate other = d.locate (join folder (numberedName (n + 1) ++ ".json")) ↔
      ∃ name, e'.values.testName = some name ∧ name ≠ "" ∧
        fileStem name = numberedName (n + 1) := by
  have hEarlier := h.number_lt hLess
  have hOwn : IsPlain (numberedName (n + 1) ++ ".json") := by
    rw [← fileStem_numberedName]
    exact isPlain_stem _ (by decide) (by decide)
  cases h with
  | @entry e text stem _ hEntry' hText hDocument hStem =>
    obtain rfl : e = e' := Option.some.inj (hEntry'.symm.trans hEntry)
    rw [locate_stem_eq hStem.plain hOwn]
    cases hStem with
    | @named name hName hNonempty =>
      constructor
      · exact fun hSame => ⟨name, hName, hNonempty, hSame⟩
      · rintro ⟨name', hName', -, hSame⟩
        rw [hName] at hName'
        rw [Option.some.inj hName', hSame]
    | nameless hNone =>
      constructor
      · intro hSame
        have hSameNumber := numberedName_injective hSame
        omega
      · rintro ⟨name, hName, hNonempty, -⟩
        rcases hNone with hNone | hNone
        · rw [hNone] at hName
          contradiction
        · rw [hNone] at hName
          exact absurd (Option.some.inj hName).symm hNonempty

/-! ## The file of a recording without a name -/

/-- The first recording is named like the number of the second one, which has no name and is saved
in its place: of two recordings that were saved one is left. -/
theorem nameless_takes_file :
    let entries : List (Entry StoredRecording) :=
      [⟨⟨some "Recording 2", some "7"⟩⟩, ⟨⟨none, some "8"⟩⟩]
    Saves "out" entries 0 "out/recording_2.json" (.ofWord 7) ∧
      Saves "out" entries 1 "out/recording_2.json" (.ofWord 8) ∧
      (saveRecordings (entries.take 1) "out" emptied).2.readText "out/recording_2.json" = .ok "7" ∧
      (saveRecordings entries "out" emptied).1 = .ok 2 ∧
      (saveRecordings entries "out" emptied).2.readText "out/recording_2.json" = .ok "8" ∧
      (saveRecordings entries "out" emptied).2.list "out" = .ok ["recording_2.json"] := by
  intro entries
  refine ⟨saves_iff.2 ⟨_, rfl, ?_, ?_⟩, saves_iff.2 ⟨_, rfl, ?_, ?_⟩, ?_⟩ <;> decide +kernel

/-- **A recording without a name takes the file of an earlier one exactly if that was named so.**
When a recording without a name is saved behind `n` others, it is saved under the number `n + 1`.
This is the file of a recording that was saved earlier if and only if that has a name of its own
whose stem is the one with this number; every other recording that was saved earlier stays what it
is. -/
theorem nameless_takes_file_iff (hEntry : entries[i]? = some e)
    (hNameless : e.values.testName = none ∨ e.values.testName = some "")
    (hSaves : Saves folder entries i path document)
    (hBefore : saveRecordings (entries.take i) folder d = (.ok n, d₁))
    (hWrite : d₁.writeText path document.pretty = .ok d₂) :
    saveRecordings entries folder d = saveEach folder (n + 1) (entries.drop (i + 1)) d₂ ∧
    path = join folder (numberedName (n + 1) ++ ".json") ∧
    ∀ j < i, ∀ e' other document', entries[j]? = some e' →
      Saves folder entries j other document' →
      (d₁.locate other = d₁.locate path ↔
        ∃ name, e'.values.testName = some name ∧ name ≠ "" ∧
          fileStem name = numberedName (n + 1)) ∧
      (d₁.locate other ≠ d₁.locate path →
        ∀ text, d₁.readText other = .ok text → d₂.readText other = .ok text) := by
  obtain ⟨made, hMade⟩ : ∃ made, d.makeFolders folder = (.ok (), made) := by
    rw [saveRecordings] at hBefore
    rcases hFolders : d.makeFolders folder with ⟨_ | _, made⟩
    · simp [hFolders] at hBefore
    · exact ⟨made, rfl⟩
  rw [saveRecordings_eq hMade] at hBefore
  have hNumber := saveEach_count hBefore
  rw [Nat.zero_add] at hNumber
  obtain ⟨e', hEntry', hDocument, hPath⟩ := saves_iff.1 hSaves
  obtain rfl : e = e' := Option.some.inj (hEntry.symm.trans hEntry')
  rw [← hNumber] at hPath
  have hOwn : path = join folder (numberedName (n + 1) ++ ".json") := by
    rw [hPath, recordingPath, ← StoredRecording.hasStem_iff.1 (.nameless hNameless)]
  refine ⟨?_, hOwn, ?_⟩
  · rw [saveRecordings_eq hMade, saveEach_from hEntry hBefore]
    exact saveEach_save hDocument hPath hWrite
  · intro j hLess e' other document' hEntry' hEarlier
    rw [hOwn]
    refine ⟨hEarlier.locate_eq_iff hLess hEntry' hNumber.symm, fun hOther text hText => ?_⟩
    rw [hOwn] at hWrite
    exact Disk.readText_mono (Disk.edits_of_write hWrite).1.changesOnly hText hOther

/-- The third recording has no name, and the second one is named like its number: the third takes
the file of the second and leaves that of the first. -/
theorem nameless_takes_second_file :
    let entries : List (Entry StoredRecording) :=
      [⟨⟨none, some "7"⟩⟩, ⟨⟨some "Recording 3", some "8"⟩⟩, ⟨⟨some "", some "9"⟩⟩]
    ∃ d₁ d₂, saveRecordings (entries.take 2) "out" emptied = (.ok 2, d₁) ∧
      d₁.readText "out/recording_3.json" = .ok "8" ∧
      saveRecordings entries "out" emptied = (.ok 3, d₂) ∧
      d₂.readText "out/recording_3.json" = .ok "9" ∧
      d₂.readText "out/recording_1.json" = .ok "7" := by
  intro entries
  have hFirst : Saves "out" entries 0 "out/recording_1.json" (.ofWord 7) :=
    saves_iff.2 ⟨_, rfl, by decide +kernel, by decide +kernel⟩
  have hThird : Saves "out" entries 2 "out/recording_3.json" (.ofWord 9) :=
    saves_iff.2 ⟨_, rfl, by decide +kernel, by decide +kernel⟩
  obtain ⟨d₁, hDisk⟩ : ∃ d₁, (saveRecordings (entries.take 2) "out" emptied).2 = d₁ := ⟨_, rfl⟩
  obtain ⟨hCount, hEarlier, hOther, hWritten⟩ :
      (saveRecordings (entries.take 2) "out" emptied).1 = .ok 2 ∧
        d₁.readText "out/recording_3.json" = .ok "8" ∧
        d₁.readText "out/recording_1.json" = .ok "7" ∧
        (d₁.writeText "out/recording_3.json" (Json.ofWord 9).pretty).map (fun _ => ()) =
          .ok () := by
    subst hDisk
    decide +kernel
  obtain ⟨d₂, hWrite⟩ := exists_of_map hWritten
  have hBefore : saveRecordings (entries.take 2) "out" emptied = (.ok 2, d₁) :=
    Prod.ext hCount hDisk
  obtain ⟨hSaved, -, hOthers⟩ := nameless_takes_file_iff rfl (.inr rfl) hThird hBefore hWrite
  obtain ⟨hTaken, hStays⟩ := hOthers 0 (by decide) _ _ _ rfl hFirst
  refine ⟨d₁, d₂, hBefore, hEarlier, hSaved, Converter.readText_of_writeText hWrite,
    hStays (fun hSame => ?_) _ hOther⟩
  obtain ⟨name, hName, -⟩ := hTaken.1 hSame
  contradiction

end Files
end SessionReplay
