import SessionReplay.Conversion.Batch
import SessionReplay.Proofs.Conversion.File
import SessionReplay.Proofs.Storage.Appending
import SessionReplay.Proofs.Text.Lines

/-!
# What a conversion logs

What happens in a conversion is written down beside it, event by event. Each event puts one message
behind what stands in the log, and nothing else changes it.

* `ConversionEvent`: what happens, and the message about it.
* `Converter.convertEvents`, `convertAllEvents`: what happens in a conversion, in order.
* `Host.Logged`: a host has put messages, each with the time, behind what stood in its log.
* `Converter.SparesLog`: neither folders nor scripts are put in the place of the log.
* `Converter.logged_convert`, `logged_convertAll`: the messages about all that happens, and no
  others, are put into the log in order.
-/

namespace SessionReplay

open Storage

/-! ## Events -/

/-- What happens in a conversion. -/
inductive ConversionEvent where
  | viewport (name : String) (size : Viewport)
  | diagnostic (name : String) (d : Script.Diagnostic)
  | kept (name : String) (fault : Fault)
  | converted (name script : String)
  | failed (failure : ConversionFailure)
  | noFolder (folder : String)
  | noRecordings (folder : String)
  deriving DecidableEq, Repr

def ConversionEvent.message : ConversionEvent → String
  | viewport name size => name ++ s!": viewport {size.width.toNat}x{size.height.toNat}"
  | diagnostic name d => name ++ ": " ++ d.message
  | kept name fault => Converter.keptMessage name fault
  | converted name script => Converter.convertedMessage name script
  | failed failure => failure.message
  | noFolder folder => Converter.noFolderMessage folder
  | noRecordings folder => Converter.noRecordingsMessage folder

namespace Converter

def viewportEvents (name : String) (r : Recording) : List ConversionEvent :=
  match r.viewport with
  | some v => if v.isSet then [.viewport name v] else []
  | none => []

/-- What there is to say about a recording before its script is written. -/
def recordingEvents (name : String) (r : Recording) (s : Script) : List ConversionEvent :=
  viewportEvents name r ++ s.diagnostics.map (.diagnostic name)

def removalEvents (path name : String) (d : Disk) : List ConversionEvent :=
  match d.remove path with
  | .ok _ => []
  | .error fault => [.kept name fault]

def storeEvents (c : Converter) (path name stem : String) (s : Script) (d : Disk) :
    List ConversionEvent :=
  match d.makeFolders c.output with
  | (.error _, _) => []
  | (.ok (), d) =>
    match d.writeText (c.scriptPath stem) s.source with
    | .error _ => []
    | .ok d => removalEvents path name d ++ [.converted name (c.scriptPath stem)]

/-- What happens when a recording is converted. -/
def convertEvents (c : Converter) (path : String) (h : Host) : List ConversionEvent :=
  match Path.stem? path with
  | none => []
  | some stem =>
    match h.disk.readText path with
    | .error _ => []
    | .ok text =>
      match Recording.ofText text with
      | .error _ => []
      | .ok r =>
        let name := sourceName path
        let s := Script.ofRecording r stem
        recordingEvents name r s ++ c.storeEvents path name stem s (c.noted path stem r h).disk

/-- Of a recording of a folder it is also told that it failed. -/
def outcomeEvents : Except ConversionFailure Converted → List ConversionEvent
  | .ok _ => []
  | .error failure => [.failed failure]

def nextEvents (c : Converter) (path : String) (h : Host) : List ConversionEvent :=
  c.convertEvents path h ++ outcomeEvents (c.convert path h).1

/-- What happens when recordings are converted one after the other. -/
def eachEvents (c : Converter) (h : Host) : List String → List ConversionEvent
  | [] => []
  | path :: rest =>
    c.nextEvents path h ++ c.eachEvents (c.convertNext ({}, h) path).2 rest

/-- What happens when a folder is converted. -/
def convertAllEvents (c : Converter) (folder : String) (h : Host) : List ConversionEvent :=
  if !h.disk.has folder then [.noFolder folder]
  else
    match recordings h.disk folder with
    | .error _ => []
    | .ok paths => if paths.isEmpty then [.noRecordings folder] else c.eachEvents h paths

theorem message_viewportEvents (name : String) (r : Recording) :
    (viewportEvents name r).map ConversionEvent.message = viewportMessages name r := by
  unfold viewportEvents viewportMessages
  cases r.viewport with
  | none => rfl
  | some v =>
    dsimp only
    split <;> rfl

theorem message_recordingEvents (path stem : String) (r : Recording) :
    (recordingEvents (sourceName path) r (Script.ofRecording r stem)).map
        ConversionEvent.message = messages path stem r := by
  rw [recordingEvents, List.map_append, message_viewportEvents, List.map_map, messages]
  rfl

end Converter

/-! ## The log -/

/-- The line of a message. -/
def entryLine (time : Instant) (message : String) : String :=
  "[" ++ time.millisText ++ "] " ++ message

namespace Host

variable {log : String} {h h' h'' : Host} {messages more : List String}

/-- The lines of messages that are logged one after the other. -/
def entryLines (h : Host) (messages : List String) : List String :=
  messages.mapIdx fun i message => entryLine (h.clock (h.readings + i)) message

/-- The text of these lines. -/
def entryText (h : Host) (messages : List String) : String :=
  String.ofList (Script.textOf (h.entryLines messages))

/-- A host has put messages behind what stood in its log, and can do so again. -/
structure Logged (log : String) (h : Host) (messages : List String) (h' : Host) : Prop where
  clock : h'.clock = h.clock
  readings : h'.readings = h.readings + messages.length
  home : h'.disk.home = h.disk.home
  writable : h'.disk.Writable log
  contents : h'.disk.contents log = h.disk.contents log ++ (h.entryText messages).toUTF8

theorem entryText_nil (h : Host) : h.entryText [] = "" := rfl

theorem entryText_singleton (h : Host) (message : String) :
    h.entryText [message] = logLine (h.clock h.readings) message := by
  refine String.toList_injective ?_
  simp [entryText, entryLines, Script.textOf, entryLine, logLine]

theorem entryLines_append (hClock : h'.clock = h.clock)
    (hReadings : h'.readings = h.readings + messages.length) :
    h.entryLines (messages ++ more) = h.entryLines messages ++ h'.entryLines more := by
  have hIndex (i : Nat) :
      h.readings + messages.length + i = h.readings + (i + messages.length) := by omega
  simp only [entryLines, List.mapIdx_append, hClock, hReadings, hIndex]

namespace Logged

theorem of_writable (h : Host) (hWritable : h.disk.Writable log) : Logged log h [] h :=
  ⟨rfl, rfl, rfl, hWritable, by simp [entryText_nil]⟩

theorem trans (hFirst : Logged log h messages h') (hThen : Logged log h' more h'') :
    Logged log h (messages ++ more) h'' where
  clock := hThen.clock.trans hFirst.clock
  readings := by
    rw [hThen.readings, hFirst.readings, List.length_append, Nat.add_assoc]
  home := hThen.home.trans hFirst.home
  writable := hThen.writable
  contents := by
    have hText : h.entryText (messages ++ more) = h.entryText messages ++ h'.entryText more := by
      unfold entryText
      rw [entryLines_append hFirst.clock hFirst.readings, ← String.ofList_append]
      simp [Script.textOf]
    rw [hThen.contents, hFirst.contents, hText, String.toUTF8_eq_toByteArray,
      String.toUTF8_eq_toByteArray, String.toUTF8_eq_toByteArray, String.toByteArray_append,
      ByteArray.append_assoc]

/-- A change of the disk that leaves the log alone. -/
theorem spared (hWritable : h.disk.Writable log) {disk : Disk} (hSpares : h.disk.Spares log disk) :
    Logged log h [] { h with disk := disk } where
  clock := rfl
  readings := rfl
  home := hSpares.home
  writable := hSpares.writable hWritable
  contents := by simp [hSpares.contents hWritable, entryText_nil]

end Logged

theorem logged_log (hWritable : h.disk.Writable log) (message : String) :
    Logged log h [message] (h.log log message) := by
  obtain ⟨disk, hAppend, hAgain, hContents⟩ :=
    Disk.append_of_writable hWritable (logLine (h.clock h.readings) message).toUTF8
  have hHome := (Disk.rewrites_of_append hAppend).home
  rw [← entryText_singleton] at hContents
  have hLog : h.log log message = { h with disk := disk, readings := h.readings + 1 } := by
    simp only [Host.log, now, onDisk, hAppend]
  rw [hLog]
  exact ⟨rfl, rfl, hHome, hAgain, hContents⟩

theorem logged_logAll (hWritable : h.disk.Writable log) (messages : List String) :
    Logged log h messages (h.logAll log messages) := by
  induction messages generalizing h with
  | nil => exact .of_writable h hWritable
  | cons message messages ih =>
    have hFirst := logged_log hWritable message
    exact hFirst.trans (ih hFirst.writable)

end Host

/-! ## Conversions -/

namespace Converter

variable {c : Converter} {path : String} {h h' : Host}

/-- Neither the folder for scripts nor one above it nor a script is put in the place of the log. -/
structure SparesLog (c : Converter) (d : Disk) : Prop where
  folders : ¬ d.IsPlaceOf (Path.upwards c.output) (d.locate c.log)
  scripts : ∀ stem, d.locate c.log ≠ d.locate (c.scriptPath stem)

theorem SparesLog.of_home {d d' : Disk} (hSpares : c.SparesLog d) (hHome : d'.home = d.home) :
    c.SparesLog d' := by
  have hLocate := Disk.locate_eq_of_home hHome
  refine ⟨?_, fun stem => ?_⟩
  · rintro ⟨up, hUp, hPlace⟩
    rw [hLocate, hLocate] at hPlace
    exact hSpares.folders ⟨up, hUp, hPlace⟩
  · rw [hLocate, hLocate]
    exact hSpares.scripts stem

theorem logged_removal (hWritable : h.disk.Writable c.log)
    (hSource : h.disk.locate c.log ≠ h.disk.locate path) (hRemoval : Removal c path h h') :
    h.Logged c.log ((removalEvents path (sourceName path) h.disk).map ConversionEvent.message)
      h' := by
  unfold removalEvents
  cases hRemoval with
  | gone hRemove =>
    rw [hRemove]
    exact .spared hWritable (.of_edits (Disk.edits_of_remove hRemove).1 hSource)
  | kept hRemove =>
    rw [hRemove]
    exact Host.logged_log hWritable _

theorem logged_consume (hWritable : h.disk.Writable c.log)
    (hSource : h.disk.locate c.log ≠ h.disk.locate path) (script : String) (diagnostics : Nat) :
    h.Logged c.log ((removalEvents path (sourceName path) h.disk ++
        [ConversionEvent.converted (sourceName path) script]).map ConversionEvent.message)
      (c.consume path (sourceName path) script diagnostics h).2 := by
  obtain ⟨h', hRemoval, hConsume⟩ := c.consume_removal path script diagnostics h
  have hRemoved := logged_removal hWritable hSource hRemoval
  have hLast := Host.logged_log hRemoved.writable (convertedMessage (sourceName path) script)
  rw [hConsume, List.map_append]
  exact hRemoved.trans hLast

theorem logged_store {stem : String} (hWritable : h.disk.Writable c.log)
    (hFolders : h.disk.Spares c.log (h.disk.makeFolders c.output).2)
    (hScript : h.disk.locate c.log ≠ h.disk.locate (c.scriptPath stem))
    (hSource : h.disk.locate c.log ≠ h.disk.locate path) (s : Script) :
    h.Logged c.log
      ((c.storeEvents path (sourceName path) stem s h.disk).map ConversionEvent.message)
      (c.store path (sourceName path) stem s h).2 := by
  have hMade := Host.Logged.spared hWritable hFolders
  unfold store storeEvents
  generalize h.disk.makeFolders c.output = folders at hMade ⊢
  obtain ⟨result, disk⟩ := folders
  cases result with
  | error fault => exact hMade
  | ok _ =>
    dsimp only at hMade ⊢
    cases hWrite : disk.writeText (c.scriptPath stem) s.source with
    | error fault => exact hMade
    | ok written =>
      have hMoved := Disk.locate_eq_of_home hMade.home
      have hScript' : disk.locate c.log ≠ disk.locate (c.scriptPath stem) := by
        rw [hMoved, hMoved]
        exact hScript
      have hWritten := Host.Logged.spared hMade.writable
        (.of_edits (Disk.edits_of_write hWrite).1 hScript')
      have hLocate := Disk.locate_eq_of_home (hWritten.home.trans hMade.home)
      have hSource' : written.locate c.log ≠ written.locate path := by
        rwa [hLocate, hLocate]
      exact (hMade.trans hWritten).trans (logged_consume hWritten.writable hSource' _ _)

/-- **The messages about all that happens in a conversion are put into the log**, and no others. -/
theorem logged_convert (hWritable : h.disk.Writable c.log) (hSpares : c.SparesLog h.disk)
    (hSource : h.disk.locate c.log ≠ h.disk.locate path) :
    h.Logged c.log ((c.convertEvents path h).map ConversionEvent.message) (c.convert path h).2 := by
  have hNothing := Host.Logged.of_writable h hWritable
  unfold convert convertEvents
  cases Path.stem? path with
  | none => exact hNothing
  | some stem =>
    dsimp only
    cases h.disk.readText path with
    | error fault => exact hNothing
    | ok text =>
      dsimp only
      cases Recording.ofText text with
      | error fault => exact hNothing
      | ok r =>
        have hNoted : h.Logged c.log (messages path stem r) (c.noted path stem r h) :=
          Host.logged_logAll hWritable _
        have hLocate := Disk.locate_eq_of_home hNoted.home
        have hSource' : (c.noted path stem r h).disk.locate c.log ≠
            (c.noted path stem r h).disk.locate path := by
          rwa [hLocate, hLocate]
        have hSpares' := hSpares.of_home hNoted.home
        have hStored := logged_store hNoted.writable (.of_makeFolders hSpares'.folders)
          (hSpares'.scripts stem) hSource' (Script.ofRecording r stem)
        dsimp only
        rw [List.map_append, message_recordingEvents]
        exact hNoted.trans hStored

theorem logged_convertNext (hWritable : h.disk.Writable c.log) (hSpares : c.SparesLog h.disk)
    (hSource : h.disk.locate c.log ≠ h.disk.locate path) (batch : Batch) :
    h.Logged c.log ((c.nextEvents path h).map ConversionEvent.message)
      (c.convertNext (batch, h) path).2 := by
  have hConverted := logged_convert hWritable hSpares hSource
  unfold convertNext nextEvents
  rw [List.map_append]
  dsimp only
  generalize c.convert path h = result at hConverted ⊢
  obtain ⟨outcome, h'⟩ := result
  cases outcome with
  | ok converted => exact hConverted.trans (.of_writable h' hConverted.writable)
  | error failure => exact hConverted.trans (Host.logged_log hConverted.writable _)

/-- What a conversion does to the host does not depend on what was converted before. -/
theorem convertNext_snd (batch : Batch) (h : Host) (path : String) :
    (c.convertNext (batch, h) path).2 = (c.convertNext ({}, h) path).2 := by
  unfold convertNext
  dsimp only
  split <;> rfl

theorem logged_each {paths : List String} (hWritable : h.disk.Writable c.log)
    (hSpares : c.SparesLog h.disk)
    (hSources : ∀ path ∈ paths, h.disk.locate c.log ≠ h.disk.locate path) (batch : Batch) :
    h.Logged c.log ((c.eachEvents h paths).map ConversionEvent.message)
      (paths.foldl c.convertNext (batch, h)).2 := by
  induction paths generalizing h batch with
  | nil => exact .of_writable h hWritable
  | cons path rest ih =>
    rw [List.forall_mem_cons] at hSources
    have hFirst := logged_convertNext hWritable hSpares hSources.1 batch
    have hLocate := Disk.locate_eq_of_home hFirst.home
    have hRest := ih hFirst.writable (hSpares.of_home hFirst.home)
      (fun other hOther => by rw [hLocate, hLocate]; exact hSources.2 other hOther)
      (c.convertNext (batch, h) path).1
    rw [List.foldl_cons, eachEvents, List.map_append, ← convertNext_snd batch]
    exact hFirst.trans hRest

theorem logged_convertAll {folder : String} (hWritable : h.disk.Writable c.log)
    (hSpares : c.SparesLog h.disk) (hSources : ∀ paths, recordings h.disk folder = .ok paths →
      ∀ path ∈ paths, h.disk.locate c.log ≠ h.disk.locate path) :
    h.Logged c.log ((c.convertAllEvents folder h).map ConversionEvent.message)
      (c.convertAll folder h).2 := by
  unfold convertAll convertAllEvents
  split
  · exact Host.logged_log hWritable _
  · cases hPaths : recordings h.disk folder with
    | error fault => exact .of_writable h hWritable
    | ok paths =>
      cases paths with
      | nil => exact Host.logged_log hWritable _
      | cons path rest => exact logged_each hWritable hSpares (hSources _ hPaths) {}

end Converter
end SessionReplay
