import SessionReplay.Proofs.Conversion.Names
import SessionReplay.Proofs.Storage.Change
import SessionReplay.Proofs.Text.Lossy

/-!
# A recording is consumed exactly if its script is written

* `Host.logAll_rewrites`: logging changes the log at most.
* `Conversion`: the ways in which a conversion ends, with the states that it goes through.
* `Converter.conversion`: every conversion ends in one of them.
* `Converter.gone_of_done`: a recording that could be removed before it is converted is gone.
* `Converter.convert_consumes`: a failing conversion leaves the recording and all files but the log
  as they are; one that succeeds leaves the script in the place of the recording.
-/

namespace SessionReplay

open Storage

/-! ## Logging -/

namespace Host

theorem log_rewrites (path : String) (h : Host) (message : String) :
    h.disk.Rewrites (h.disk.locate path) (h.log path message).disk := by
  simp only [log, now, onDisk]
  cases hAppend : h.disk.append path (logLine (h.clock h.readings) message).toUTF8 with
  | error fault => exact .refl _ _
  | ok disk => exact Disk.rewrites_of_append hAppend

/-- Logging, seen from an earlier disk. -/
theorem log_rewrites_of_home {d : Disk} {h : Host} (hHome : h.disk.home = d.home)
    (path message : String) :
    h.disk.Rewrites (d.locate path) (h.log path message).disk := by
  rw [← Disk.locate_eq_of_home hHome]
  exact h.log_rewrites path message

theorem logAll_rewrites (path : String) (h : Host) (messages : List String) :
    h.disk.Rewrites (h.disk.locate path) (h.logAll path messages).disk := by
  induction messages generalizing h with
  | nil => exact .refl _ _
  | cons message messages ih =>
    have hFirst := h.log_rewrites path message
    have hRest := ih (h.log path message)
    rw [Disk.locate_eq_of_home hFirst.home] at hRest
    exact hFirst.trans hRest

end Host

/-! ## The ways in which a conversion ends -/

/-- A recording that can be read from a disk, and the stem of its name. -/
structure Compiles (d : Disk) (path stem : String) (r : Recording) : Prop where
  named : Path.stem? path = some stem
  parsed : ∃ text, d.readText path = .ok text ∧ Recording.ofText text = .ok r

namespace Converter

def sourceName (path : String) : String := (Path.fileName? path).getD path

/-- The messages about a recording that are logged before its script is written. -/
def messages (path stem : String) (r : Recording) : List String :=
  viewportMessages (sourceName path) r ++
    diagnosticMessages (sourceName path) (Script.ofRecording r stem)

/-- A host that has logged what there is to say about a recording. -/
def noted (c : Converter) (path stem : String) (r : Recording) (h : Host) : Host :=
  h.logAll c.log (messages path stem r)

/-- What the removal of a source comes to. -/
inductive Removal (c : Converter) (path : String) (h : Host) : Host → Prop
  | gone {disk : Disk} (hRemove : h.disk.remove path = .ok disk) :
    Removal c path h { h with disk := disk }
  | kept {fault : Fault} (hRemove : h.disk.remove path = .error fault) :
    Removal c path h (h.log c.log (keptMessage (sourceName path) fault))

/-- The ways in which a conversion ends. -/
inductive Conversion (c : Converter) (path : String) (h : Host) :
    Except ConversionFailure Converted × Host → Prop
  | badName (hStem : Path.stem? path = none) :
    Conversion c path h (.error (.badName path), h)
  | unread {stem : String} {fault : Fault} (hStem : Path.stem? path = some stem)
    (hRead : h.disk.readText path = .error fault) :
    Conversion c path h (.error (.read path fault), h)
  | unparsed {stem text : String} {fault : Json.Fault} (hStem : Path.stem? path = some stem)
    (hRead : h.disk.readText path = .ok text) (hParse : Recording.ofText text = .error fault) :
    Conversion c path h (.error (.parse path fault), h)
  | noOutput {stem : String} {r : Recording} {fault : Fault} {disk : Disk}
    (hCompiles : Compiles h.disk path stem r)
    (hFolders : (c.noted path stem r h).disk.makeFolders c.output = (.error fault, disk)) :
    Conversion c path h
      (.error (.makeOutput c.output fault), { c.noted path stem r h with disk := disk })
  | unwritten {stem : String} {r : Recording} {fault : Fault} {disk : Disk}
    (hCompiles : Compiles h.disk path stem r)
    (hFolders : (c.noted path stem r h).disk.makeFolders c.output = (.ok (), disk))
    (hWrite : disk.writeText (c.scriptPath stem) (Script.ofRecording r stem).source =
      .error fault) :
    Conversion c path h
      (.error (.write (c.scriptPath stem) fault), { c.noted path stem r h with disk := disk })
  | done {stem : String} {r : Recording} {disk written : Disk} {h' : Host}
    (hCompiles : Compiles h.disk path stem r)
    (hFolders : (c.noted path stem r h).disk.makeFolders c.output = (.ok (), disk))
    (hWrite : disk.writeText (c.scriptPath stem) (Script.ofRecording r stem).source = .ok written)
    (hRemoval : Removal c path { c.noted path stem r h with disk := written } h') :
    Conversion c path h
      (.ok ⟨path, c.scriptPath stem, (Script.ofRecording r stem).diagnostics.length⟩,
        h'.log c.log (convertedMessage (sourceName path) (c.scriptPath stem)))

theorem consume_removal (c : Converter) (path script : String) (diagnostics : Nat) (h : Host) :
    ∃ h', Removal c path h h' ∧ c.consume path (sourceName path) script diagnostics h =
      (.ok ⟨path, script, diagnostics⟩,
        h'.log c.log (convertedMessage (sourceName path) script)) := by
  cases hRemove : h.disk.remove path with
  | error fault =>
    refine ⟨_, .kept hRemove, ?_⟩
    simp only [consume, hRemove, Host.onDisk]
  | ok disk =>
    refine ⟨_, .gone hRemove, ?_⟩
    simp only [consume, hRemove, Host.onDisk]

theorem conversion (c : Converter) (path : String) (h : Host) :
    Conversion c path h (c.convert path h) := by
  unfold convert
  split
  · next hStem => exact .badName hStem
  · next stem hStem =>
    split
    · next hRead => exact .unread hStem hRead
    · next text hRead =>
      split
      · next hParse => exact .unparsed hStem hRead hParse
      · next r hParse =>
        have hCompiles : Compiles h.disk path stem r := ⟨hStem, text, hRead, hParse⟩
        change Conversion c path h (c.store path (sourceName path) stem (Script.ofRecording r stem)
          (c.noted path stem r h))
        unfold store
        split
        · next hFolders => exact .noOutput hCompiles hFolders
        · next disk hFolders =>
          dsimp only
          split
          · next hWrite => exact .unwritten hCompiles hFolders hWrite
          · next written hWrite =>
            obtain ⟨h', hRemoval, hConsume⟩ := c.consume_removal path (c.scriptPath stem)
              (Script.ofRecording r stem).diagnostics.length
              { c.noted path stem r h with disk := written }
            rw [hConsume]
            exact .done hCompiles hFolders hWrite hRemoval

/-! ## What a conversion leaves on the disk -/

variable {c : Converter} {path stem : String} {r : Recording} {h h' : Host}

theorem noted_rewrites (c : Converter) (path stem : String) (r : Recording) (h : Host) :
    h.disk.Rewrites (h.disk.locate c.log) (c.noted path stem r h).disk :=
  h.logAll_rewrites c.log _

/-- Until a script is written, only the log and folders change. -/
theorem prepared_changesOnly {result : Except Fault Unit} {disk : Disk}
    (hFolders : (c.noted path stem r h).disk.makeFolders c.output = (result, disk)) :
    h.disk.ChangesOnly (· = h.disk.locate c.log) disk := by
  have hMade := (c.noted path stem r h).disk.makeFolders_changesOnly c.output
  rw [hFolders] at hMade
  exact (c.noted_rewrites path stem r h).changesOnly.trans (hMade.mono fun _ hNone => hNone.elim)

/-- Until the source is removed, only the log and the script change. -/
theorem written_changesOnly {result : Except Fault Unit} {disk written : Disk} {text : String}
    (hFolders : (c.noted path stem r h).disk.makeFolders c.output = (result, disk))
    (hWrite : disk.writeText (c.scriptPath stem) text = .ok written) :
    h.disk.ChangesOnly (fun place => place = h.disk.locate c.log ∨
      place = h.disk.locate (c.scriptPath stem)) written := by
  have hPrepared := prepared_changesOnly hFolders
  have hWritten := (Disk.edits_of_write hWrite).1.changesOnly
  simp only [Disk.locate_eq_of_home hPrepared.home] at hWritten
  exact (hPrepared.mono fun _ => .inl).trans (hWritten.mono fun _ => .inr)

theorem removal_changesOnly (hRemoval : Removal c path h h') :
    h.disk.ChangesOnly (fun place => place = h.disk.locate c.log ∨ place = h.disk.locate path)
      h'.disk := by
  cases hRemoval with
  | gone hRemove => exact (Disk.edits_of_remove hRemove).1.changesOnly.mono fun _ => .inr
  | kept => exact (h.log_rewrites c.log _).changesOnly.mono fun _ => .inl

theorem find_source (hCompiles : Compiles h.disk path stem r) :
    ∃ bytes, h.disk.find path = .ok (h.disk.locate path, .file bytes) := by
  obtain ⟨text, hRead, -⟩ := hCompiles.parsed
  obtain ⟨bytes, hFind, -⟩ := Disk.find_of_readText hRead
  exact ⟨bytes, hFind⟩

/-- A text that was written is what is read. -/
theorem readText_of_writeText {d d' : Disk} {text : String}
    (hWrite : d.writeText path text = .ok d') : d'.readText path = .ok text := by
  have hRead := Disk.read_of_find (Disk.edits_of_write hWrite).2
  simp only [Disk.readText, hRead, bind, Except.bind, Text.fromUTF8?_toUTF8]

/-- The places that a conversion may change. -/
def Touches (c : Converter) (d : Disk) (path script : String) (place : Place) : Prop :=
  place = d.locate c.log ∨ place = d.locate path ∨ place = d.locate script

/-- What a conversion that succeeds leaves: the script is written, and the source is gone or
could not be removed. -/
structure Consumed (c : Converter) (path stem : String) (r : Recording) (h h' : Host) : Prop where
  changes : h.disk.ChangesOnly (Touches c h.disk path (c.scriptPath stem)) h'.disk
  script : h'.disk.readText (c.scriptPath stem) = .ok (Script.ofRecording r stem).source
  source : h'.disk.has path = false ∨
    h'.disk.find path = h.disk.find path ∧
      ∃ (before : Host) (fault : Fault), before.disk.remove path = .error fault ∧
        h' = (before.log c.log (keptMessage (sourceName path) fault)).log c.log
          (convertedMessage (sourceName path) (c.scriptPath stem))

/-- The source of a script that is written is gone, or it could not be removed and is as it was. -/
theorem source_of_done (hSource : h.disk.locate c.log ≠ h.disk.locate path) {disk written : Disk}
    (hCompiles : Compiles h.disk path stem r)
    (hFolders : (c.noted path stem r h).disk.makeFolders c.output = (.ok (), disk))
    (hWrite : disk.writeText (c.scriptPath stem) (Script.ofRecording r stem).source = .ok written)
    (hRemoval : Removal c path { c.noted path stem r h with disk := written } h') :
    (∃ gone, written.remove path = .ok gone) ∧
        (h'.log c.log (convertedMessage (sourceName path) (c.scriptPath stem))).disk.has path =
          false ∨
      (∃ fault, written.remove path = .error fault ∧
        h' = Host.log c.log { c.noted path stem r h with disk := written }
          (keptMessage (sourceName path) fault)) ∧
        (h'.log c.log (convertedMessage (sourceName path) (c.scriptPath stem))).disk.find path =
          h.disk.find path := by
  have hApart := c.locate_scriptPath_ne h.disk hCompiles.named
  have hWritten := written_changesOnly hFolders hWrite
  have hHome := hWritten.home
  have hHome' : h'.disk.home = h.disk.home := (removal_changesOnly hRemoval).home.trans hHome
  have hLast := Host.log_rewrites_of_home hHome' c.log
    (convertedMessage (sourceName path) (c.scriptPath stem))
  cases hRemoval with
  | gone hRemove =>
    refine .inl ⟨⟨_, hRemove⟩, ?_⟩
    refine Disk.not_has_edits hLast.toEdits (Disk.edits_of_remove hRemove).2 ?_
    rw [Disk.locate_eq_of_home hHome']
    exact Ne.symm hSource
  | @kept fault hRemove =>
    obtain ⟨bytes, hFind⟩ := find_source hCompiles
    have hStored := Disk.find_mono hWritten hFind (by
      rintro (hLog | hScript)
      · exact hSource hLog.symm
      · exact hApart hScript.symm)
    have hFirst := Host.log_rewrites_of_home
      (h := { c.noted path stem r h with disk := written }) hHome c.log
      (keptMessage (sourceName path) fault)
    have hLogged := Disk.find_mono (hFirst.trans hLast).changesOnly hStored (Ne.symm hSource)
    exact .inr ⟨⟨fault, hRemove, rfl⟩, hLogged.trans hFind.symm⟩

/-- Once the script is written, only the log and the source change. -/
theorem after_of_done {disk written : Disk}
    (hFolders : (c.noted path stem r h).disk.makeFolders c.output = (.ok (), disk))
    (hWrite : disk.writeText (c.scriptPath stem) (Script.ofRecording r stem).source = .ok written)
    (hRemoval : Removal c path { c.noted path stem r h with disk := written } h') :
    written.ChangesOnly (fun place => place = h.disk.locate c.log ∨ place = h.disk.locate path)
      (h'.log c.log (convertedMessage (sourceName path) (c.scriptPath stem))).disk := by
  have hHome := (written_changesOnly hFolders hWrite).home
  have hRemoved := removal_changesOnly hRemoval
  have hHome' : h'.disk.home = h.disk.home := hRemoved.home.trans hHome
  have hLast := Host.log_rewrites_of_home hHome' c.log
    (convertedMessage (sourceName path) (c.scriptPath stem))
  simp only [Disk.locate_eq_of_home hHome] at hRemoved
  exact hRemoved.trans (hLast.changesOnly.mono fun _ => .inl)

theorem changes_of_done {disk written : Disk}
    (hFolders : (c.noted path stem r h).disk.makeFolders c.output = (.ok (), disk))
    (hWrite : disk.writeText (c.scriptPath stem) (Script.ofRecording r stem).source = .ok written)
    (hRemoval : Removal c path { c.noted path stem r h with disk := written } h') :
    h.disk.ChangesOnly (Touches c h.disk path (c.scriptPath stem))
      (h'.log c.log (convertedMessage (sourceName path) (c.scriptPath stem))).disk := by
  have hStored : h.disk.ChangesOnly (Touches c h.disk path (c.scriptPath stem)) written :=
    (written_changesOnly hFolders hWrite).mono fun _ hPlace => hPlace.imp_right .inr
  exact hStored.trans ((after_of_done hFolders hWrite hRemoval).mono fun _ hPlace =>
    hPlace.imp_right .inl)

theorem consumed_of_done (hSource : h.disk.locate c.log ≠ h.disk.locate path)
    (hScript : h.disk.locate c.log ≠ h.disk.locate (c.scriptPath stem)) {disk written : Disk}
    (hCompiles : Compiles h.disk path stem r)
    (hFolders : (c.noted path stem r h).disk.makeFolders c.output = (.ok (), disk))
    (hWrite : disk.writeText (c.scriptPath stem) (Script.ofRecording r stem).source = .ok written)
    (hRemoval : Removal c path { c.noted path stem r h with disk := written } h') :
    Consumed c path stem r h
      (h'.log c.log (convertedMessage (sourceName path) (c.scriptPath stem))) := by
  have hApart := c.locate_scriptPath_ne h.disk hCompiles.named
  have hHome := (written_changesOnly hFolders hWrite).home
  refine ⟨changes_of_done hFolders hWrite hRemoval, ?_, ?_⟩
  · -- the script is neither the log nor the source, so that it outlives what comes after it
    refine Disk.readText_mono (after_of_done hFolders hWrite hRemoval)
      (readText_of_writeText hWrite) ?_
    rw [Disk.locate_eq_of_home hHome]
    rintro (hLog | hPath)
    · exact hScript hLog.symm
    · exact hApart hPath
  · rcases source_of_done hSource hCompiles hFolders hWrite hRemoval with
      ⟨-, hGone⟩ | ⟨⟨fault, hRemove, hKept⟩, hFind⟩
    · exact .inl hGone
    · refine .inr ⟨hFind, { c.noted path stem r h with disk := written }, fault, hRemove, ?_⟩
      rw [hKept]

/-- A source that could be removed from the start is gone. -/
theorem gone_of_done (hSource : h.disk.locate c.log ≠ h.disk.locate path) {removed : Disk}
    (hRemove : h.disk.remove path = .ok removed) {disk written : Disk}
    (hCompiles : Compiles h.disk path stem r)
    (hFolders : (c.noted path stem r h).disk.makeFolders c.output = (.ok (), disk))
    (hWrite : disk.writeText (c.scriptPath stem) (Script.ofRecording r stem).source = .ok written)
    (hRemoval : Removal c path { c.noted path stem r h with disk := written } h') :
    (h'.log c.log (convertedMessage (sourceName path) (c.scriptPath stem))).disk.has path =
      false := by
  have hStored := written_changesOnly hFolders hWrite
  obtain ⟨gone, hGone⟩ := Disk.remove_mono hStored hRemove (by
    rintro (hLog | hScript)
    · exact hSource hLog.symm
    · exact c.locate_scriptPath_ne h.disk hCompiles.named hScript.symm)
  cases hRemoval with
  | kept hKept => simp [hGone] at hKept
  | @gone after hRemoved =>
    obtain ⟨hEdits, hHas⟩ := Disk.edits_of_remove hRemoved
    have hHome' : after.home = h.disk.home := hEdits.home.trans hStored.home
    have hLast := Host.log_rewrites_of_home
      (h := { c.noted path stem r h with disk := after }) hHome' c.log
      (convertedMessage (sourceName path) (c.scriptPath stem))
    refine Disk.not_has_edits hLast.toEdits hHas ?_
    rw [Disk.locate_eq_of_home hHome']
    exact Ne.symm hSource

/-- What a conversion that fails leaves: the source as it was, and all files but the log. A script
that could not be written is not spoken of. -/
structure Spared (c : Converter) (path : String) (failure : ConversionFailure) (h h' : Host) :
    Prop where
  source : h'.disk.find path = h.disk.find path
  changes : h.disk.ChangesOnly (fun place => place = h.disk.locate c.log ∨
    ∃ stem fault, Path.stem? path = some stem ∧ failure = .write (c.scriptPath stem) fault ∧
      place = h.disk.locate (c.scriptPath stem)) h'.disk

theorem spared_of_same (c : Converter) (path : String) (failure : ConversionFailure) (h : Host) :
    Spared c path failure h h :=
  ⟨rfl, .refl _ _⟩

theorem spared_of_prepared (hSource : h.disk.locate c.log ≠ h.disk.locate path)
    (hCompiles : Compiles h.disk path stem r) {result : Except Fault Unit} {disk : Disk}
    (hFolders : (c.noted path stem r h).disk.makeFolders c.output = (result, disk))
    (failure : ConversionFailure) :
    Spared c path failure h { c.noted path stem r h with disk := disk } := by
  have hPrepared := prepared_changesOnly hFolders
  obtain ⟨bytes, hFind⟩ := find_source hCompiles
  refine ⟨?_, hPrepared.mono fun _ => .inl⟩
  rw [hFind]
  exact Disk.find_mono hPrepared hFind (Ne.symm hSource)

/-- A folder with a recording and a file that is none, and another file beside the folder. -/
def sample : Host where
  disk := ((((((Disk.empty ["home"]).put ["home"] .folder).put ["home", "in"] .folder).put
    ["home", "in", "a.json"] (.file "{}".toUTF8)).put
    ["home", "in", "b.json"] (.file "x".toUTF8)).put ["home", "file"] (.file "x".toUTF8))
  clock := fun _ => ⟨0, 0⟩

/-- **A recording is consumed exactly if its script is written.** If a conversion fails, what the
path of the recording names is as it was, and no file but the log is made or changed, except
perhaps the script that could not be written. If it succeeds, the script holds what the recording
compiles to, no file but the log and these two is made or changed, and the recording is gone,
or it could not be removed, which is logged. The log is assumed to be neither of the two; the
script is never the recording itself. -/
theorem convert_consumes (c : Converter) (path : String) (h : Host)
    (hSource : h.disk.locate c.log ≠ h.disk.locate path)
    (hScript : ∀ stem, Path.stem? path = some stem →
      h.disk.locate c.log ≠ h.disk.locate (c.scriptPath stem)) :
    (∀ stem, Path.stem? path = some stem →
      h.disk.locate (c.scriptPath stem) ≠ h.disk.locate path) ∧
    match c.convert path h with
    | (.error failure, h') => Spared c path failure h h'
    | (.ok converted, h') =>
      ∃ stem r, Compiles h.disk path stem r ∧
        converted = ⟨path, c.scriptPath stem, (Script.ofRecording r stem).diagnostics.length⟩ ∧
        Consumed c path stem r h h' := by
  refine ⟨fun stem hStem => c.locate_scriptPath_ne h.disk hStem, ?_⟩
  have hConversion := c.conversion path h
  generalize c.convert path h = result at hConversion ⊢
  cases hConversion with
  | badName | unread | unparsed => exact spared_of_same c path _ h
  | noOutput hCompiles hFolders => exact spared_of_prepared hSource hCompiles hFolders _
  | unwritten hCompiles hFolders => exact spared_of_prepared hSource hCompiles hFolders _
  | done hCompiles hFolders hWrite hRemoval =>
    exact ⟨_, _, hCompiles, rfl,
      consumed_of_done hSource (hScript _ hCompiles.named) hCompiles hFolders hWrite hRemoval⟩

theorem convert_consumes_sample :
    (∃ h' stem r, (⟨"out", "conversion.log"⟩ : Converter).convert "in/a.json" sample =
        (.ok ⟨"in/a.json", "out/a.cy.js", 0⟩, h') ∧ Compiles sample.disk "in/a.json" stem r ∧
      Consumed ⟨"out", "conversion.log"⟩ "in/a.json" stem r sample h') ∧
    ∃ failure h', (⟨"out", "conversion.log"⟩ : Converter).convert "in/b.json" sample =
        (.error failure, h') ∧
      Spared ⟨"out", "conversion.log"⟩ "in/b.json" failure sample h' := by
  have hLog : sample.disk.locate "conversion.log" = ["home", "conversion.log"] := by decide +kernel
  have hOutput : sample.disk.locate "out" = ["home", "out"] := by decide +kernel
  have hScript : ∀ stem, sample.disk.locate "conversion.log" ≠
      sample.disk.locate ((⟨"out", "conversion.log"⟩ : Converter).scriptPath stem) := by
    intro stem
    rw [locate_scriptPath, hLog, hOutput]
    simp
  constructor
  · obtain ⟨-, hConsumes⟩ := convert_consumes ⟨"out", "conversion.log"⟩ "in/a.json" sample
      (by rw [hLog]; decide +kernel) fun stem _ => hScript stem
    have hRun : ((⟨"out", "conversion.log"⟩ : Converter).convert "in/a.json" sample).1.toOption =
        some ⟨"in/a.json", "out/a.cy.js", 0⟩ := by decide +kernel
    generalize (⟨"out", "conversion.log"⟩ : Converter).convert "in/a.json" sample = result at *
    obtain ⟨outcome, h'⟩ := result
    cases outcome with
    | error failure => contradiction
    | ok converted =>
      obtain rfl := Option.some.inj hRun
      obtain ⟨stem, r, hCompiles, -, hConsumed⟩ := hConsumes
      exact ⟨h', stem, r, rfl, hCompiles, hConsumed⟩
  · obtain ⟨-, hConsumes⟩ := convert_consumes ⟨"out", "conversion.log"⟩ "in/b.json" sample
      (by rw [hLog]; decide +kernel) fun stem _ => hScript stem
    have hRun : ((⟨"out", "conversion.log"⟩ : Converter).convert "in/b.json" sample).1.isOk =
        false := by decide +kernel
    generalize (⟨"out", "conversion.log"⟩ : Converter).convert "in/b.json" sample = result at *
    obtain ⟨outcome, h'⟩ := result
    cases outcome with
    | ok converted => contradiction
    | error failure => exact ⟨failure, h', rfl, hConsumes⟩

end Converter
end SessionReplay
