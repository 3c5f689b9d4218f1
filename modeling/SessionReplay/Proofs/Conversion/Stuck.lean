import SessionReplay.Proofs.Conversion.File
import SessionReplay.Proofs.Conversion.Recordings
import SessionReplay.Proofs.Storage.Again

/-!
# Recordings that fail again

A recording that could not be converted cannot be converted later, whatever other recordings are
converted in between.

* `Converter.Apart`, `Source`: a converter whose log is out of the way, and its recordings.
* `Stuck`: a recording fails on a disk.
* `Echoes`: the failures when it is converted a second time.
* `Passage`: what the conversion of one recording does to a disk.
* `Stuck.passage`: a recording that fails still fails when another one is converted.
* `Stuck.convert`: a recording that fails does so, and nothing but the log changes.
-/

namespace SessionReplay

open Storage

variable {c : Converter} {d d' : Disk} {path : String}

/-! ## Recordings -/

/-- A converter whose log is neither the folder for scripts nor in it nor above it. -/
structure Converter.Apart (c : Converter) (d : Disk) : Prop where
  /-- Where the folder for scripts is looked up there is a folder. -/
  start : d.entry? (d.start c.output) = some .folder
  above : ¬ d.locate c.log <+: d.locate c.output
  below : ¬ d.locate c.output <+: d.locate c.log

/-- A file that can be converted and removed, and that is not the log. -/
structure Source (c : Converter) (d : Disk) (path : String) : Prop where
  file : ∃ bytes, d.find path = .ok (d.locate path, .file bytes)
  target : ∃ t, d.target path = .ok (some t) ∧ t.slash = false
  extension : Path.extension? path = some "json"
  log : d.locate c.log ≠ d.locate path
  unlocked : d.isLocked (d.locate path) = false

theorem Converter.Apart.changes {touched : Place → Prop} (h : c.Apart d)
    (hChanges : d.ChangesOnly touched d') : c.Apart d' where
  start := by
    rw [Disk.start_eq hChanges.home]
    exact hChanges.folders _ h.start
  above := by
    simp only [Disk.locate_eq_of_home hChanges.home]
    exact h.above
  below := by
    simp only [Disk.locate_eq_of_home hChanges.home]
    exact h.below

theorem Source.changes {touched : Place → Prop} (h : Source c d path)
    (hChanges : d.ChangesOnly touched d') (hPath : ¬ touched (d.locate path)) :
    Source c d' path := by
  have hHome := hChanges.home
  obtain ⟨bytes, hFile⟩ := h.file
  obtain ⟨t, hTarget, hSlash⟩ := h.target
  refine ⟨⟨bytes, ?_⟩, ⟨t, ?_, hSlash⟩, h.extension, ?_, ?_⟩
  · rw [Disk.locate_eq_of_home hHome]
    exact Disk.find_mono hChanges hFile hPath
  · exact Disk.target_mono hHome hChanges.folders hTarget
  · simp only [Disk.locate_eq_of_home hHome]
    exact h.log
  · rw [Disk.locate_eq_of_home hHome, Disk.isLocked, hChanges.locked]
    exact h.unlocked

theorem Source.stem (h : Source c d path) : ∃ stem, Path.stem? path = some stem := by
  obtain ⟨name, hName, -⟩ := Option.bind_eq_some_iff.1 h.extension
  exact ⟨_, by rw [Path.stem?, hName]; rfl⟩

/-- No script takes the place of any recording. -/
theorem Converter.locate_scriptPath_ne_recording (c : Converter) (d : Disk)
    (h : Path.extension? path = some "json") (stem : String) :
    d.locate (c.scriptPath stem) ≠ d.locate path := by
  obtain ⟨name, hName, hExtension⟩ := Option.bind_eq_some_iff.1 h
  obtain ⟨folder, hFolder⟩ := d.locate_of_fileName hName
  rw [c.locate_scriptPath, hFolder]
  intro hSame
  obtain ⟨-, hLast⟩ := List.append_inj' hSame rfl
  rw [← List.singleton_inj.1 hLast, splitName_scriptName] at hExtension
  exact absurd (Option.some.inj hExtension) (by decide)

theorem Source.script (h : Source c d path) (stem : String) :
    d.locate (c.scriptPath stem) ≠ d.locate path :=
  c.locate_scriptPath_ne_recording d h.extension stem

/-- The log is no script. -/
theorem Converter.Apart.script (h : c.Apart d) (stem : String) :
    d.locate c.log ≠ d.locate (c.scriptPath stem) := by
  rw [c.locate_scriptPath]
  intro hSame
  exact h.below (hSame ▸ List.prefix_append _ _)

theorem Converter.Apart.output (h : c.Apart d) : d.locate c.log ≠ d.locate c.output :=
  fun hSame => h.above (hSame ▸ List.prefix_refl _)

theorem Compiles.changes {touched : Place → Prop} {stem : String} {r : Recording}
    (h : Compiles d path stem r) (hChanges : d.ChangesOnly touched d')
    (hPath : ¬ touched (d.locate path)) : Compiles d' path stem r := by
  obtain ⟨text, hRead, hParse⟩ := h.parsed
  exact ⟨h.named, text, Disk.readText_mono hChanges hRead hPath, hParse⟩

/-- A recording that was not touched is what it was before. -/
theorem Compiles.before {touched : Place → Prop} {stem : String} {r : Recording}
    (h : Compiles d' path stem r) (hChanges : d.ChangesOnly touched d')
    (hSource : Source c d path) (hPath : ¬ touched (d.locate path)) : Compiles d path stem r := by
  obtain ⟨bytes, hFind⟩ := hSource.file
  obtain ⟨text, hRead, hParse⟩ := h.parsed
  rw [Disk.readText_of_find (Disk.find_mono hChanges hFind hPath),
    ← Disk.readText_of_find hFind] at hRead
  exact ⟨h.named, text, hRead, hParse⟩

/-! ## Recordings that fail -/

/-- A recording cannot be converted. -/
inductive Stuck (c : Converter) (d : Disk) (path : String) : ConversionFailure → Prop
  | unread {stem : String} {bytes : ByteArray} (hStem : Path.stem? path = some stem)
    (hFind : d.find path = .ok (d.locate path, .file bytes))
    (hText : String.fromUTF8? bytes = none) : Stuck c d path (.read path .notText)
  | unparsed {stem text : String} {fault : Json.Fault} (hStem : Path.stem? path = some stem)
    (hRead : d.readText path = .ok text) (hParse : Recording.ofText text = .error fault) :
    Stuck c d path (.parse path fault)
  | noOutput {stem : String} {r : Recording} {fault : Fault} (hCompiles : Compiles d path stem r)
    (hFolders : d.makeFolders c.output = (.error fault, d)) :
    Stuck c d path (.makeOutput c.output fault)
  | unwritten {stem : String} {r : Recording} {fault : Fault} (hCompiles : Compiles d path stem r)
    (hFolders : d.makeFolders c.output = (.ok (), d))
    (hWrite : d.writeText (c.scriptPath stem) (Script.ofRecording r stem).source = .error fault) :
    Stuck c d path (.write (c.scriptPath stem) fault)

/-- How a second failure may differ from the first: where something was in the way of the folder
for scripts, it may be found to be no folder. -/
def Echoes (c : Converter) (first second : ConversionFailure) : Prop :=
  second = first ∨
    first = .makeOutput c.output .alreadyExists ∧ second = .makeOutput c.output .notFolder

theorem Echoes.refl (failure : ConversionFailure) : Echoes c failure failure := .inl rfl

theorem Echoes.trans {first second third : ConversionFailure} (h : Echoes c first second)
    (h' : Echoes c second third) : Echoes c first third := by
  rcases h with rfl | ⟨rfl, rfl⟩
  · exact h'
  · rcases h' with rfl | ⟨hOther, -⟩
    · exact .inr ⟨rfl, rfl⟩
    · simp at hOther

theorem echoes_of_recurs {first second : Fault} (h : Disk.Recurs first second) :
    Echoes c (.makeOutput c.output first) (.makeOutput c.output second) := by
  rcases h with rfl | ⟨rfl, rfl⟩
  · exact .refl _
  · exact .inr ⟨rfl, rfl⟩

/-! ## What happens to a disk -/

/-- What the conversion of a recording does to a disk: things are logged, then folders are made,
then files change, which is only the log where the folders could not be made. -/
inductive Passage (c : Converter) (touched : Place → Prop) (d d' : Disk) : Prop
  | logged (hLog : d.Rewrites (d.locate c.log) d')
  | blocked {noted made : Disk} {fault : Fault} (hLog : d.Rewrites (d.locate c.log) noted)
    (hFolders : noted.makeFolders c.output = (.error fault, made))
    (hAfter : made.Rewrites (d.locate c.log) d')
  | made {noted made : Disk} (hLog : d.Rewrites (d.locate c.log) noted)
    (hFolders : noted.makeFolders c.output = (.ok (), made)) (hAfter : made.Edits touched d')

theorem Passage.changesOnly {touched : Place → Prop} (h : Passage c touched d d') :
    d.ChangesOnly (fun place => place = d.locate c.log ∨ touched place) d' := by
  have hMade : ∀ {noted made : Disk} {result : Except Fault Unit},
      noted.makeFolders c.output = (result, made) → noted.ChangesOnly (fun _ => False) made := by
    intro noted made result hFolders
    have hChanges := noted.makeFolders_changesOnly c.output
    rwa [hFolders] at hChanges
  cases h with
  | logged hLog => exact hLog.changesOnly.mono fun _ => .inl
  | blocked hLog hFolders hAfter =>
    refine (hLog.changesOnly.mono fun _ => .inl).trans ?_
    exact ((hMade hFolders).mono fun _ hNone => hNone.elim).trans
      (hAfter.changesOnly.mono fun _ => .inl)
  | made hLog hFolders hAfter =>
    refine (hLog.changesOnly.mono fun _ => .inl).trans ?_
    exact ((hMade hFolders).mono fun _ hNone => hNone.elim).trans
      (hAfter.changesOnly.mono fun _ => .inr)

/-- The folder for scripts can still not be made. -/
theorem blocked_passage {touched : Place → Prop} (hApart : c.Apart d) {fault : Fault}
    (hFolders : d.makeFolders c.output = (.error fault, d)) (h : Passage c touched d d') :
    ∃ again, d'.makeFolders c.output = (.error again, d') ∧ Disk.Recurs fault again := by
  have hLogged : ∀ {noted : Disk}, d.Rewrites (d.locate c.log) noted →
      ∃ again, noted.makeFolders c.output = (.error again, noted) ∧ Disk.Recurs fault again :=
    fun hLog => Disk.makeFolders_again hApart.start hFolders hLog (.inr hApart.output)
  cases h with
  | logged hLog => exact hLogged hLog
  | @blocked noted made other hLog hMade hAfter =>
    -- what is logged in between makes no folder, so that nothing was made
    obtain ⟨again, hAgain, -⟩ := hLogged hLog
    rw [hAgain] at hMade
    obtain ⟨-, rfl⟩ := Prod.mk.inj hMade
    exact hLogged (hLog.trans hAfter)
  | made hLog hMade =>
    obtain ⟨again, hAgain, -⟩ := hLogged hLog
    simp [hAgain] at hMade

/-- The folder for scripts is still there, and files change only. -/
theorem ready_passage {touched : Place → Prop} (hFolders : d.makeFolders c.output = (.ok (), d))
    (h : Passage c touched d d') :
    d'.makeFolders c.output = (.ok (), d') ∧
      d.Edits (fun place => place = d.locate c.log ∨ touched place) d' := by
  have hEdits : d.Edits (fun place => place = d.locate c.log ∨ touched place) d' := by
    cases h with
    | logged hLog => exact hLog.toEdits.mono fun _ => .inl
    | blocked hLog hMade =>
      have hAgain := Disk.makeFolders_of_ok hFolders hLog.home fun place => (hLog.folders place).2
      simp [hAgain] at hMade
    | made hLog hMade hAfter =>
      have hAgain := Disk.makeFolders_of_ok hFolders hLog.home fun place => (hLog.folders place).2
      rw [hAgain] at hMade
      obtain ⟨-, rfl⟩ := Prod.mk.inj hMade
      exact (hLog.toEdits.mono fun _ => .inl).trans (hAfter.mono fun _ => .inr)
  exact ⟨Disk.makeFolders_of_ok hFolders hEdits.home fun place => (hEdits.folders place).2, hEdits⟩

/-- A script that could not be written cannot be written later. -/
theorem script_error_stays {touched : Place → Prop} (hApart : c.Apart d)
    (hFolders : d.makeFolders c.output = (.ok (), d)) (hEdits : d.Edits touched d')
    {stem text : String} {fault : Fault}
    (hWrite : d.writeText (c.scriptPath stem) text = .error fault) :
    d'.writeText (c.scriptPath stem) text = .error fault :=
  Disk.write_error_stays (isPlain_scriptName stem) hApart.start hFolders hEdits hWrite

/-- **A recording that fails still fails when another one is converted.** -/
theorem Stuck.passage {touched : Place → Prop} {failure : ConversionFailure} (hApart : c.Apart d)
    (hStuck : Stuck c d path failure) (h : Passage c touched d d')
    (hLog : d.locate c.log ≠ d.locate path) (hPath : ¬ touched (d.locate path)) :
    ∃ again, Stuck c d' path again ∧ Echoes c failure again := by
  have hChanges := h.changesOnly
  have hUntouched : ¬ (d.locate path = d.locate c.log ∨ touched (d.locate path)) := by
    rintro (hSame | hTouched)
    · exact hLog hSame.symm
    · exact hPath hTouched
  cases hStuck with
  | unread hStem hFind hText =>
    refine ⟨_, .unread hStem ?_ hText, .refl _⟩
    rw [Disk.locate_eq_of_home hChanges.home]
    exact Disk.find_mono hChanges hFind hUntouched
  | unparsed hStem hRead hParse =>
    exact ⟨_, .unparsed hStem (Disk.readText_mono hChanges hRead hUntouched) hParse, .refl _⟩
  | noOutput hCompiles hFolders =>
    obtain ⟨again, hAgain, hRecurs⟩ := blocked_passage hApart hFolders h
    exact ⟨_, .noOutput (hCompiles.changes hChanges hUntouched) hAgain, echoes_of_recurs hRecurs⟩
  | unwritten hCompiles hFolders hWrite =>
    obtain ⟨hReady, hEdits⟩ := ready_passage hFolders h
    exact ⟨_, .unwritten (hCompiles.changes hChanges hUntouched) hReady
      (script_error_stays hApart hFolders hEdits hWrite), .refl _⟩

/-! ## Conversions as passages -/

namespace Converter

variable {h h' : Host}

theorem readText_error_of_source (hSource : Source c d path) {fault : Fault}
    (hRead : d.readText path = .error fault) :
    ∃ bytes, d.find path = .ok (d.locate path, .file bytes) ∧
      String.fromUTF8? bytes = none ∧ fault = .notText := by
  obtain ⟨bytes, hFind⟩ := hSource.file
  refine ⟨bytes, hFind, ?_⟩
  rw [Disk.readText_of_find hFind] at hRead
  cases hText : String.fromUTF8? bytes with
  | none =>
    rw [hText] at hRead
    exact ⟨rfl, (Except.error.inj hRead).symm⟩
  | some text => simp [hText] at hRead

/-- The places that change when a recording fails: just the log. -/
def LogOnly (c : Converter) (d : Disk) (place : Place) : Prop := place = d.locate c.log

theorem makeFolders_home {d disk : Disk} {output : String} {result : Except Fault Unit}
    (h : d.makeFolders output = (result, disk)) : disk.home = d.home := by
  have hChanges := d.makeFolders_changesOnly output
  rw [h] at hChanges
  exact hChanges.home

/-- **A recording that cannot be converted is stuck**, also when that is logged. -/
theorem stuck_of_convert {failure : ConversionFailure} (hApart : c.Apart h.disk)
    (hSource : Source c h.disk path) (hConvert : c.convert path h = (.error failure, h')) :
    Passage c (c.LogOnly h.disk) h.disk (h'.log c.log failure.message).disk ∧
      ∃ again, Stuck c (h'.log c.log failure.message).disk path again ∧ Echoes c failure again := by
  have hConversion := c.conversion path h
  rw [hConvert] at hConversion
  have hApartLog := hSource.log
  have hUnlogged : ¬ c.LogOnly h.disk (h.disk.locate path) := fun hSame => hApartLog hSame.symm
  have hLogged : ∀ message, Passage c (c.LogOnly h.disk) h.disk (h.log c.log message).disk :=
    fun message => .logged (h.log_rewrites c.log message)
  cases hConversion with
  | badName hStem =>
    obtain ⟨stem, hSome⟩ := hSource.stem
    simp [hStem] at hSome
  | unread hStem hRead =>
    obtain ⟨bytes, hFind, hText, rfl⟩ := readText_error_of_source hSource hRead
    exact ⟨hLogged _, Stuck.passage hApart (.unread hStem hFind hText) (hLogged _) hApartLog
      hUnlogged⟩
  | unparsed hStem hRead hParse =>
    exact ⟨hLogged _, Stuck.passage hApart (.unparsed hStem hRead hParse) (hLogged _) hApartLog
      hUnlogged⟩
  | @noOutput stem r fault disk hCompiles hFolders =>
    have hNoted := c.noted_rewrites path stem r h
    have hAfter := Host.log_rewrites_of_home (h := { c.noted path stem r h with disk := disk })
      ((makeFolders_home hFolders).trans hNoted.home) c.log
      (ConversionFailure.makeOutput c.output fault).message
    have hPassage : Passage c (c.LogOnly h.disk) h.disk _ := .blocked hNoted hFolders hAfter
    have hStart := (hApart.changes hNoted.changesOnly).start
    obtain ⟨again, hAgain, hRecurs⟩ := Disk.makeFolders_again hStart hFolders hAfter (.inr (by
      rw [Disk.locate_eq_of_home hNoted.home]
      exact hApart.output))
    refine ⟨hPassage, _, .noOutput (hCompiles.changes hPassage.changesOnly ?_) hAgain,
      echoes_of_recurs hRecurs⟩
    rintro (hSame | hSame)
    · exact hUnlogged hSame
    · exact hUnlogged hSame
  | @unwritten stem r fault disk hCompiles hFolders hWrite =>
    have hNoted := c.noted_rewrites path stem r h
    have hMade := (c.noted path stem r h).disk.makeFolders_changesOnly c.output
    rw [hFolders] at hMade
    have hAfter := Host.log_rewrites_of_home (h := { c.noted path stem r h with disk := disk })
      (hMade.home.trans hNoted.home) c.log
      (ConversionFailure.write (c.scriptPath stem) fault).message
    have hPassage : Passage c (c.LogOnly h.disk) h.disk _ := .made hNoted hFolders hAfter.toEdits
    have hReady := Disk.makeFolders_of_ok hFolders hAfter.home fun place => (hAfter.folders place).2
    have hReady' := Disk.makeFolders_of_ok hFolders rfl fun _ hFolder => hFolder
    have hApart' := (hApart.changes hNoted.changesOnly).changes hMade
    refine ⟨hPassage, _, .unwritten (hCompiles.changes hPassage.changesOnly ?_) hReady
      (script_error_stays hApart' hReady' hAfter.toEdits hWrite), .refl _⟩
    rintro (hSame | hSame)
    · exact hUnlogged hSame
    · exact hUnlogged hSame

theorem remove_of_source (hSource : Source c d path) : ∃ removed, d.remove path = .ok removed := by
  obtain ⟨bytes, hFind⟩ := hSource.file
  obtain ⟨t, hTarget, hSlash⟩ := hSource.target
  have hPlace := Disk.locate_of_target hTarget hSlash
  have hEntry := (Disk.find_eq_ok.1 hFind).2.2
  have hUnlocked := hSource.unlocked
  rw [← hPlace] at hEntry hUnlocked
  exact ⟨_, Disk.remove_eq_ok.2 ⟨t, bytes, hTarget, hSlash, hEntry, hUnlocked, rfl⟩⟩

/-- **A recording that is converted is gone**, and its script is written. -/
theorem gone_of_convert {converted : Converted} (hApart : c.Apart h.disk)
    (hSource : Source c h.disk path) (hConvert : c.convert path h = (.ok converted, h')) :
    ∃ stem r, Compiles h.disk path stem r ∧
      converted = ⟨path, c.scriptPath stem, (Script.ofRecording r stem).diagnostics.length⟩ ∧
      Passage c (Touches c h.disk path (c.scriptPath stem)) h.disk h'.disk ∧
      h'.disk.readText (c.scriptPath stem) = .ok (Script.ofRecording r stem).source ∧
      h'.disk.has path = false ∧ h'.disk.makeFolders c.output = (.ok (), h'.disk) := by
  have hConversion := c.conversion path h
  rw [hConvert] at hConversion
  cases hConversion with
  | @done stem r disk written after hCompiles hFolders hWrite hRemoval =>
    have hNoted := c.noted_rewrites path stem r h
    have hStored := written_changesOnly hFolders hWrite
    have hHome := hStored.home
    have hWritten := (Disk.edits_of_write hWrite).1
    simp only [Disk.locate_eq_of_home (prepared_changesOnly hFolders).home] at hWritten
    have hSource' : Source c written path := by
      refine hSource.changes hStored ?_
      rintro (hSame | hSame)
      · exact hSource.log hSame.symm
      · exact hSource.script stem hSame.symm
    obtain ⟨removed, hRemove⟩ := remove_of_source hSource'
    have hConsumed := consumed_of_done hSource.log (hApart.script stem) hCompiles hFolders hWrite
      hRemoval
    cases hRemoval with
    | kept hKept => simp [hRemove] at hKept
    | @gone gone hGone =>
      have hEdits := (Disk.edits_of_remove hGone).1
      simp only [Disk.locate_eq_of_home hHome] at hEdits
      have hHome' : gone.home = h.disk.home := hEdits.home.trans hHome
      have hAfter := Host.log_rewrites_of_home
        (h := { c.noted path stem r h with disk := gone }) hHome' c.log
        (convertedMessage (sourceName path) (c.scriptPath stem))
      have hAll : Disk.Edits (Touches c h.disk path (c.scriptPath stem)) _ _ :=
        (hWritten.mono fun _ hPlace => .inr (.inr hPlace)).trans
          ((hEdits.mono fun _ hPlace => .inr (.inl hPlace)).trans
            (hAfter.toEdits.mono fun _ => .inl))
      refine ⟨stem, r, hCompiles, rfl, .made hNoted hFolders hAll, hConsumed.script, ?_,
        Disk.makeFolders_of_ok hFolders hAll.home fun place => (hAll.folders place).2⟩
      obtain ⟨removed, hRemoved⟩ := remove_of_source hSource
      exact gone_of_done hSource.log hRemoved hCompiles hFolders hWrite (.gone hGone)

/-! ## Recordings that are stuck -/

theorem convert_of_compiles {stem : String} {r : Recording}
    (hCompiles : Compiles h.disk path stem r) :
    c.convert path h = c.store path (sourceName path) stem (Script.ofRecording r stem)
      (c.noted path stem r h) := by
  obtain ⟨text, hRead, hParse⟩ := hCompiles.parsed
  simp only [convert, hCompiles.named, hRead, hParse]
  rfl

/-- **A recording that is stuck fails when it is converted**, and nothing but the log changes. -/
theorem convert_of_stuck {failure : ConversionFailure} (hApart : c.Apart h.disk)
    (hStuck : Stuck c h.disk path failure) :
    ∃ again h', c.convert path h = (.error again, h') ∧ Echoes c failure again ∧
      h.disk.Rewrites (h.disk.locate c.log) h'.disk := by
  cases hStuck with
  | unread hStem hFind hText =>
    refine ⟨_, h, ?_, .refl _, .refl _ _⟩
    simp only [convert, hStem, Disk.readText_of_find hFind, hText]
  | unparsed hStem hRead hParse =>
    refine ⟨_, h, ?_, .refl _, .refl _ _⟩
    simp only [convert, hStem, hRead, hParse]
  | @noOutput stem r fault hCompiles hFolders =>
    have hNoted := c.noted_rewrites path stem r h
    obtain ⟨again, hAgain, hRecurs⟩ :=
      Disk.makeFolders_again hApart.start hFolders hNoted (.inr hApart.output)
    refine ⟨_, c.noted path stem r h, ?_, echoes_of_recurs hRecurs, hNoted⟩
    simp only [convert_of_compiles hCompiles, store, hAgain]
  | @unwritten stem r fault hCompiles hFolders hWrite =>
    have hNoted := c.noted_rewrites path stem r h
    have hAgain := Disk.makeFolders_of_ok hFolders hNoted.home fun place => (hNoted.folders place).2
    have hWrite' := script_error_stays hApart hFolders hNoted.toEdits hWrite
    refine ⟨_, c.noted path stem r h, ?_, .refl _, hNoted⟩
    simp only [convert_of_compiles hCompiles, store, hAgain, hWrite']

end Converter

end SessionReplay
