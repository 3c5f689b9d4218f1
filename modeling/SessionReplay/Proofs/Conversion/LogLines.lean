import SessionReplay.Proofs.Conversion.Logging
import SessionReplay.Proofs.Script.Problems

/-!
# The lines of the log

Every event puts one message into the log. That is one line, unless the message repeats a text with
a line feed in it: messages repeat the names of files and paths, and the names of unknown kinds of
steps.

* `ConversionEvent.texts`: the texts that the message about an event repeats.
* `Converter.Session`: conversions one after the other.
* `Host.LineByLine`: what was put into the log comes apart into the messages again.
* `Converter.session_log`: it does so exactly if none of these texts has a line feed in it.
-/

namespace SessionReplay

open Storage Text

/-! ## Texts in messages -/

def ConversionFailure.path : ConversionFailure → String
  | list path _ | makeOutput path _ | read path _ | parse path _ | write path _ => path
  | badName path => path

/-- The texts that the message about an event repeats as they are. -/
def ConversionEvent.texts : ConversionEvent → List String
  | viewport name _ | kept name _ => [name]
  | diagnostic name d => name :: d.texts
  | converted name script => [name, script]
  | failed failure => [failure.path]
  | noFolder folder | noRecordings folder => [folder]

theorem isLine_fault (fault : Fault) : IsLine fault.message := by
  cases fault <;> decide

theorem ConversionFailure.repeats_heading (f : ConversionFailure) : Repeats f.heading [f.path] := by
  cases f with
  | list path | makeOutput path | read path | parse path | write path | badName path =>
    exact Repeats.append (.of_isLine (by decide)) (.self path)

theorem ConversionFailure.repeats_message {f : ConversionFailure}
    (hParse : ∀ path fault, f = .parse path fault → IsLine fault.message) :
    Repeats f.message [f.path] := by
  have hLine : ∀ cause, f.cause? = some cause → IsLine cause := by
    intro cause hCause
    cases f with
    | badName path => contradiction
    | parse path fault =>
      obtain rfl := Option.some.inj hCause
      exact hParse path fault rfl
    | list path fault | makeOutput path fault | read path fault | write path fault =>
      obtain rfl := Option.some.inj hCause
      exact isLine_fault fault
  have hColon : Repeats ": " [] := .of_isLine (by decide)
  unfold message
  split
  · next cause hCause =>
    exact (f.repeats_heading.append hColon).append (.of_isLine (hLine cause hCause))
  · exact f.repeats_heading

namespace ConversionEvent

theorem repeats_viewport (name : String) (size : Viewport) :
    Repeats (viewport name size).message [name] := by
  have hViewport : Repeats ": viewport " [] := .of_isLine (by decide)
  have hTimes : Repeats "x" [] := .of_isLine (by decide)
  have hWidth := Repeats.of_isLine (isLine_nat size.width.toNat)
  have hHeight := Repeats.of_isLine (isLine_nat size.height.toNat)
  exact (Repeats.self name).append (((hViewport.append hWidth).append hTimes).append hHeight)

theorem repeats_diagnostic (name : String) {d : Script.Diagnostic} (h : Repeats d.message d.texts) :
    Repeats (diagnostic name d).message (name :: d.texts) := by
  have hColon : Repeats ": " [] := .of_isLine (by decide)
  exact ((Repeats.self name).append hColon).append h

theorem repeats_kept (name : String) (fault : Fault) :
    Repeats (kept name fault).message [name] := by
  have hKept : Repeats ": converted but could not delete source: " [] :=
    .of_isLine (by decide)
  exact ((Repeats.self name).append hKept).append (.of_isLine (isLine_fault fault))

theorem repeats_converted (name script : String) :
    Repeats (converted name script).message [name, script] := by
  have hConverted : Repeats "Converted " [] := .of_isLine (by decide)
  have hArrow : Repeats " -> " [] := .of_isLine (by decide)
  exact ((hConverted.append (.self name)).append hArrow).append (.self script)

theorem repeats_noFolder (folder : String) : Repeats (noFolder folder).message [folder] := by
  have hBefore : Repeats "No recordings directory at " [] := .of_isLine (by decide)
  have hAfter : Repeats ", nothing to convert" [] := .of_isLine (by decide)
  exact (hBefore.append (.self folder)).append hAfter

theorem repeats_noRecordings (folder : String) :
    Repeats (noRecordings folder).message [folder] :=
  Repeats.append (.of_isLine (by decide)) (.self folder)

end ConversionEvent

namespace Converter

variable {c : Converter} {path : String} {h h' : Host} {e : ConversionEvent}

theorem repeats_of_mem_recordingEvents {name stem : String} {r : Recording}
    (hMem : e ∈ recordingEvents name r (Script.ofRecording r stem)) :
    Repeats e.message e.texts := by
  rcases List.mem_append.1 hMem with hMem | hMem
  · unfold viewportEvents at hMem
    split at hMem
    · split at hMem
      · obtain rfl := List.mem_singleton.1 hMem
        exact ConversionEvent.repeats_viewport _ _
      · exact absurd hMem List.not_mem_nil
    · exact absurd hMem List.not_mem_nil
  · obtain ⟨d, hDiagnostic, rfl⟩ := List.mem_map.1 hMem
    exact ConversionEvent.repeats_diagnostic _ (Script.repeats_of_mem_diagnostics hDiagnostic)

theorem repeats_of_mem_storeEvents {name stem : String} {s : Script} {d : Disk}
    (hMem : e ∈ c.storeEvents path name stem s d) : Repeats e.message e.texts := by
  unfold storeEvents at hMem
  split at hMem
  · exact absurd hMem List.not_mem_nil
  · split at hMem
    · exact absurd hMem List.not_mem_nil
    · rcases List.mem_append.1 hMem with hMem | hMem
      · unfold removalEvents at hMem
        split at hMem
        · exact absurd hMem List.not_mem_nil
        · obtain rfl := List.mem_singleton.1 hMem
          exact ConversionEvent.repeats_kept _ _
      · obtain rfl := List.mem_singleton.1 hMem
        exact ConversionEvent.repeats_converted _ _

theorem repeats_of_mem_convertEvents (hMem : e ∈ c.convertEvents path h) :
    Repeats e.message e.texts := by
  unfold convertEvents at hMem
  split at hMem
  · exact absurd hMem List.not_mem_nil
  · split at hMem
    · exact absurd hMem List.not_mem_nil
    · split at hMem
      · exact absurd hMem List.not_mem_nil
      · rcases List.mem_append.1 hMem with hMem | hMem
        · exact repeats_of_mem_recordingEvents hMem
        · exact repeats_of_mem_storeEvents hMem

theorem repeats_of_mem_nextEvents (hMem : e ∈ c.nextEvents path h) :
    Repeats e.message e.texts := by
  rcases List.mem_append.1 hMem with hMem | hMem
  · exact repeats_of_mem_convertEvents hMem
  · have hConversion := c.conversion path h
    generalize c.convert path h = result at hMem hConversion
    cases hConversion with
    | done => exact absurd hMem List.not_mem_nil
    | badName | unread | noOutput | unwritten =>
      obtain rfl := List.mem_singleton.1 hMem
      refine ConversionFailure.repeats_message ?_
      rintro _ _ ⟨⟩
    | unparsed hStem hRead hParse =>
      obtain rfl := List.mem_singleton.1 hMem
      refine ConversionFailure.repeats_message ?_
      rintro _ _ ⟨⟩
      exact Recording.isLine_of_ofText hParse

theorem repeats_of_mem_eachEvents {paths : List String} (hMem : e ∈ c.eachEvents h paths) :
    Repeats e.message e.texts := by
  induction paths generalizing h with
  | nil => exact absurd hMem List.not_mem_nil
  | cons path rest ih =>
    rcases List.mem_append.1 hMem with hMem | hMem
    · exact repeats_of_mem_nextEvents hMem
    · exact ih hMem

theorem repeats_of_mem_convertAllEvents {folder : String}
    (hMem : e ∈ c.convertAllEvents folder h) : Repeats e.message e.texts := by
  unfold convertAllEvents at hMem
  split at hMem
  · obtain rfl := List.mem_singleton.1 hMem
    exact ConversionEvent.repeats_noFolder _
  · split at hMem
    · exact absurd hMem List.not_mem_nil
    · split at hMem
      · obtain rfl := List.mem_singleton.1 hMem
        exact ConversionEvent.repeats_noRecordings _
      · exact repeats_of_mem_eachEvents hMem

/-! ## Sessions -/

/-- Conversions of recordings and of folders, one after the other, and what happens in them. The log
is none of the recordings. In between others may change the disk, if they leave the log as it is and
open to what is put into it. -/
inductive Session (c : Converter) (h : Host) : List ConversionEvent → Host → Prop
  | start : Session c h [] h
  | convert {h' : Host} {events : List ConversionEvent} (hBefore : Session c h events h')
      (path : String) (hSource : h'.disk.locate c.log ≠ h'.disk.locate path) :
      Session c h (events ++ c.convertEvents path h') (c.convert path h').2
  | convertAll {h' : Host} {events : List ConversionEvent} (hBefore : Session c h events h')
      (folder : String) (hSources : ∀ paths, recordings h'.disk folder = .ok paths →
        ∀ path ∈ paths, h'.disk.locate c.log ≠ h'.disk.locate path) :
      Session c h (events ++ c.convertAllEvents folder h') (c.convertAll folder h').2
  | others {h' : Host} {events : List ConversionEvent} (hBefore : Session c h events h')
      {disk : Disk} (hHome : disk.home = h'.disk.home) (hWritable : disk.Writable c.log)
      (hContents : disk.contents c.log = h'.disk.contents c.log) :
      Session c h events { h' with disk := disk }

namespace Session

variable {events : List ConversionEvent}

/-- What happens in a session is put into the log. -/
theorem logged (hSession : c.Session h events h') (hWritable : h.disk.Writable c.log)
    (hSpares : c.SparesLog h.disk) :
    h.Logged c.log (events.map ConversionEvent.message) h' := by
  induction hSession with
  | start => exact .of_writable h hWritable
  | convert _ path hSource ih =>
    have hSpares' := hSpares.of_home ih.home
    rw [List.map_append]
    exact ih.trans (logged_convert ih.writable hSpares' hSource)
  | convertAll _ folder hSources ih =>
    have hSpares' := hSpares.of_home ih.home
    rw [List.map_append]
    exact ih.trans (logged_convertAll ih.writable hSpares' hSources)
  | others _ hHome hOpen hContents ih =>
    exact ⟨ih.clock, ih.readings, hHome.trans ih.home, hOpen, hContents.trans ih.contents⟩

/-- The message about what happens in a session goes on to a new line only where a text that it
repeats does. -/
theorem repeats (hSession : c.Session h events h') (hMem : e ∈ events) :
    Repeats e.message e.texts := by
  induction hSession with
  | start => exact absurd hMem List.not_mem_nil
  | convert _ path _ ih =>
    rcases List.mem_append.1 hMem with hMem | hMem
    · exact ih hMem
    · exact repeats_of_mem_convertEvents hMem
  | convertAll _ folder _ ih =>
    rcases List.mem_append.1 hMem with hMem | hMem
    · exact ih hMem
    · exact repeats_of_mem_convertAllEvents hMem
  | others _ _ _ _ ih => exact ih hMem

end Session
end Converter

/-! ## Lines -/

theorem breaks_entryLine (time : Instant) (message : String) :
    breaks (entryLine time message) = breaks message := by
  have hOpen : breaks "[" = 0 := by decide
  have hClose : breaks "] " = 0 := by decide
  have hTime := breaks_eq_zero.2 (isLine_millisText time)
  simp only [entryLine, breaks_append, hOpen, hClose, hTime, Nat.zero_add]

namespace Host

variable {log : String} {h h' : Host} {messages : List String}

/-- What was put into the log comes apart, where lines end, into the messages with their times. -/
def LineByLine (log : String) (h : Host) (messages : List String) (h' : Host) : Prop :=
  ∃ text : String, h'.disk.contents log = h.disk.contents log ++ text.toUTF8 ∧
    text.toList.splitOn '\n' = (h.entryLines messages).map String.toList ++ [[]]

theorem map_breaks_entryLines (h : Host) (messages : List String) :
    (h.entryLines messages).map breaks = messages.map breaks := by
  refine List.ext_getElem ?_ fun i _ _ => ?_
  · simp only [entryLines, List.length_map, List.length_mapIdx]
  · simp only [entryLines, List.getElem_map, List.getElem_mapIdx, breaks_entryLine]

theorem breaks_entryText (h : Host) (messages : List String) :
    breaks (h.entryText messages) = messages.length + (messages.map breaks).sum := by
  have hLength : (h.entryLines messages).length = messages.length := List.length_mapIdx
  rw [breaks, entryText, String.toList_ofList, count_textOf, map_breaks_entryLines, hLength]

theorem Logged.lineByLine_iff (hLogged : h.Logged log messages h') :
    h.LineByLine log messages h' ↔ ∀ message ∈ messages, IsLine message := by
  have hEntries : h.LineByLine log messages h' ↔ ∀ line ∈ h.entryLines messages, IsLine line := by
    rw [← splitOn_textOf_iff]
    constructor
    · rintro ⟨text, hText, hSplit⟩
      rw [hLogged.contents, ByteArray.append_right_inj, String.toUTF8_eq_toByteArray,
        String.toUTF8_eq_toByteArray, String.toByteArray_inj] at hText
      rwa [← hText, entryText, String.toList_ofList] at hSplit
    · intro hSplit
      exact ⟨_, hLogged.contents, by rwa [entryText, String.toList_ofList]⟩
  have hBreaks := congrArg List.sum (map_breaks_entryLines h messages)
  have hZero (texts : List String) :
      (texts.map breaks).sum = 0 ↔ ∀ text ∈ texts, IsLine text := by
    simp [List.sum_eq_zero_iff_forall_eq_nat, breaks_eq_zero]
  rw [hEntries, ← hZero, ← hZero, hBreaks]

end Host

namespace Converter

variable {c : Converter} {h h' : Host} {events : List ConversionEvent}

/-- A host with a recording of one step, whose kind is written like this. -/
def recorded (kind : String) : Host where
  disk := (Disk.empty []).put ["a.json"]
    (.file ("\x7b\"steps\":[\x7b\"type\":\"" ++ kind ++ "\"\x7d]\x7d").toUTF8)
  clock := fun _ => ⟨0, 0⟩

theorem sparesLog_recorded (kind : String) :
    SparesLog ⟨"out", "conversion.log"⟩ (recorded kind).disk := by
  have hLog : (Disk.empty []).locate "conversion.log" = ["conversion.log"] := by decide
  have hOutput : (Disk.empty []).locate "out" = ["out"] := by decide
  have hEmpty : SparesLog ⟨"out", "conversion.log"⟩ (Disk.empty []) := by
    constructor
    · rw [hLog]
      unfold Disk.IsPlaceOf
      decide
    · intro stem
      rw [locate_scriptPath, hLog, hOutput]
      simp
  exact hEmpty.of_home rfl

/-- **What a session puts into the log.** It is one line for each event, with its time and its
message, in order, but the line of a message goes on to a new one for each line feed in a text that
the message repeats. So the log comes apart into the messages of the events exactly if none of
these texts has a line feed in it: the names of files, paths, and the names of unknown kinds of
steps. -/
theorem session_log (hSession : c.Session h events h') (hWritable : h.disk.Writable c.log)
    (hSpares : c.SparesLog h.disk) :
    h'.disk.contents c.log = h.disk.contents c.log ++
        (h.entryText (events.map ConversionEvent.message)).toUTF8 ∧
      breaks (h.entryText (events.map ConversionEvent.message)) =
        events.length + (events.map fun e => (e.texts.map breaks).sum).sum ∧
      (h.LineByLine c.log (events.map ConversionEvent.message) h' ↔
        ∀ e ∈ events, ∀ text ∈ e.texts, IsLine text) := by
  have hLogged := hSession.logged hWritable hSpares
  refine ⟨hLogged.contents, ?_, ?_⟩
  · rw [Host.breaks_entryText, List.length_map, List.map_map]
    have hTexts : events.map (breaks ∘ ConversionEvent.message) =
        events.map fun e => (e.texts.map breaks).sum :=
      List.map_congr_left fun e hMem => hSession.repeats hMem
    rw [hTexts]
  · rw [hLogged.lineByLine_iff, List.forall_mem_map]
    exact forall₂_congr fun e hMem => (hSession.repeats hMem).isLine_iff

/-- A recording with a step of an unknown kind is converted, and then a folder that is not there. -/
theorem session_log_wait :
    ∃ events h', Session ⟨"out", "conversion.log"⟩ (recorded "wait") events h' ∧
      (recorded "wait").disk.Writable "conversion.log" ∧
      SparesLog ⟨"out", "conversion.log"⟩ (recorded "wait").disk ∧
      events.map ConversionEvent.message =
        ["a.json: Step 1: unhandled step type 'wait'", "Converted a.json -> out/a.cy.js",
          "No recordings directory at in, nothing to convert"] ∧
      (recorded "wait").LineByLine "conversion.log" (events.map ConversionEvent.message) h' := by
  let c : Converter := ⟨"out", "conversion.log"⟩
  let h := recorded "wait"
  let after := (c.convert "a.json" h).2
  have hFirst : c.Session h ([] ++ c.convertEvents "a.json" h) after :=
    Session.start.convert "a.json" (by decide)
  have hNone : (recordings after.disk "in").toOption = none := by decide +kernel
  have hSession := hFirst.convertAll "in" fun paths hPaths => by
    rw [hPaths] at hNone
    contradiction
  have hWritable : h.disk.Writable c.log := by decide
  have hTexts : ∀ e ∈ [] ++ c.convertEvents "a.json" h ++ c.convertAllEvents "in" after,
      ∀ text ∈ e.texts, IsLine text := by decide +kernel
  obtain ⟨-, -, hLines⟩ := session_log hSession hWritable (sparesLog_recorded "wait")
  exact ⟨_, _, hSession, hWritable, sparesLog_recorded "wait", by decide +kernel, hLines.2 hTexts⟩

/-- The name of a kind may go on to a new line, and then the log does. -/
theorem log_holds_forged_line :
    ¬ ∀ (c : Converter) (h h' : Host) (events : List ConversionEvent), c.Session h events h' →
      h.disk.Writable c.log → c.SparesLog h.disk →
        h.LineByLine c.log (events.map ConversionEvent.message) h' := by
  intro hAll
  let c : Converter := ⟨"out", "conversion.log"⟩
  let h := recorded "a\\nb"
  have hSession : c.Session h ([] ++ c.convertEvents "a.json" h) (c.convert "a.json" h).2 :=
    Session.start.convert "a.json" (by decide)
  have hWritable : h.disk.Writable c.log := by decide
  have hSpares := sparesLog_recorded "a\\nb"
  have hLines := hAll _ _ _ _ hSession hWritable hSpares
  rw [(hSession.logged hWritable hSpares).lineByLine_iff] at hLines
  have hBroken : "a.json: Step 1: unhandled step type 'a\nb'" ∈
      ([] ++ c.convertEvents "a.json" h).map ConversionEvent.message := by
    decide +kernel
  exact absurd (hLines _ hBroken) (by decide)

end Converter
end SessionReplay
