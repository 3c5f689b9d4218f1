import SessionReplay.Conversion.Batch
import SessionReplay.Proofs.Conversion.File
import SessionReplay.Proofs.Conversion.Recordings
import SessionReplay.Proofs.Storage.Alike

/-!
# Conversions do not depend on their log

Conversions are run twice, one after the other, on disks that may differ in the log: in what stands
in it, in whether it is there, and in whether it can be written. If the log lies aside from what is
converted, both runs give the same results and leave the same disks, the log apart.

* `ConversionTask`, `Converter.performAll`: conversions of recordings and of folders in order.
* `Converter.LogAside`, `ConversionTask.Avoids`: the log lies aside.
* `Host.EndAlike`: two runs end with the same result, on disks that are alike but for one place.
* `Converter.convert_alike`, `convertAll_alike`: one conversion, and that of a folder.
* `Converter.performAll_unobserved`: all of them, also where nothing can be logged at all.
-/

namespace SessionReplay

open Storage

/-! ## Runs -/

inductive ConversionTask where
  | recording (path : String)
  | folder (path : String)
  deriving DecidableEq, Repr

inductive ConversionResult where
  | recording (result : Except ConversionFailure Converted)
  | folder (result : Except ConversionFailure Batch)

namespace Converter

def perform (c : Converter) (task : ConversionTask) (h : Host) : ConversionResult × Host :=
  match task with
  | .recording path => (.recording (c.convert path h).1, (c.convert path h).2)
  | .folder path => (.folder (c.convertAll path h).1, (c.convertAll path h).2)

/-- Conversions one after the other. -/
def performAll (c : Converter) (h : Host) : List ConversionTask → List ConversionResult × Host
  | [] => ([], h)
  | task :: tasks =>
    let (result, h) := c.perform task h
    let (results, h) := c.performAll h tasks
    (result :: results, h)

end Converter

/-! ## The log lies aside -/

/-- The log is not in the folder for scripts, and the path of the folder does not lead through it.
-/
structure Converter.LogAside (c : Converter) (d : Disk) : Prop where
  way : d.locate c.log ∉ d.way c.output
  outside : ¬ d.locate c.output <+: d.locate c.log

/-- A place is none that is read to find what is converted. -/
def ConversionTask.Avoids (place : Place) (d : Disk) : ConversionTask → Prop
  | .recording path => place ∉ d.way path
  | .folder path => place ∉ d.way path ∧ ¬ d.locate path <+: place

namespace Host

variable {α β : Type} {log : Place} {h h' : Host}

/-- Two runs end with the same result, on disks that are alike but for one place. -/
structure EndAlike (log : Place) (r r' : α × Host) : Prop where
  result : r'.1 = r.1
  disks : r.2.disk.AlikeBut log r'.2.disk

/-- All that is put into a log at the place, or into none, changes nothing else. -/
def LogsAt (path : String) (log : Place) (d : Disk) : Prop := path = "" ∨ d.locate path = log

theorem append_empty (d : Disk) (bytes : ByteArray) : d.append "" bytes = .error .notFound := by
  rw [Disk.append_eq, Disk.write, Disk.target_eq_bind]
  rfl

/-- Nothing can be logged where there is no path for it. -/
theorem log_empty (h : Host) (message : String) : (h.log "" message).disk = h.disk := by
  simp only [Host.log, now, onDisk, append_empty]

theorem log_alike {path : String} (hLog : LogsAt path log h.disk) (message : String) :
    h.disk.AlikeBut log (h.log path message).disk := by
  rcases hLog with rfl | rfl
  · rw [log_empty]
    exact .refl _ _
  · simp only [Host.log, now, onDisk]
    cases hAppend : h.disk.append path (logLine (h.clock h.readings) message).toUTF8 with
    | error fault => exact .refl _ _
    | ok disk => exact .of_append hAppend

theorem LogsAt.of_home {path : String} {d d' : Disk} (hLog : LogsAt path log d)
    (hHome : d'.home = d.home) : LogsAt path log d' :=
  hLog.imp_right fun hPlace => (Disk.locate_eq_of_home hHome path).trans hPlace

theorem logAll_alike {path : String} (hLog : LogsAt path log h.disk) (messages : List String) :
    h.disk.AlikeBut log (h.logAll path messages).disk := by
  induction messages generalizing h with
  | nil => exact .refl _ _
  | cons message messages ih =>
    have hFirst := log_alike hLog message
    exact hFirst.trans (ih (hLog.of_home hFirst.home))

theorem logged_alike {path path' : String} (hAlike : h.disk.AlikeBut log h'.disk)
    (hLog : LogsAt path log h.disk) (hLog' : LogsAt path' log h'.disk)
    (messages messages' : List String) :
    Disk.AlikeBut log (h.logAll path messages).disk (h'.logAll path' messages').disk :=
  (logAll_alike hLog messages).symm.trans (hAlike.trans (logAll_alike hLog' messages'))

end Host

/-! ## Nothing moves the working folder -/

namespace Converter

variable {c c' : Converter} {path : String} {log : Place} {h h' : Host}

theorem convert_home (c : Converter) (path : String) (h : Host) :
    (c.convert path h).2.disk.home = h.disk.home := by
  have hConversion := c.conversion path h
  generalize c.convert path h = result at hConversion ⊢
  cases hConversion with
  | badName | unread | unparsed => rfl
  | noOutput _ hFolders | unwritten _ hFolders => exact (prepared_changesOnly hFolders).home
  | done _ hFolders hWrite hRemoval =>
    have hWritten := (written_changesOnly hFolders hWrite).home
    have hRemoved := (removal_changesOnly hRemoval).home
    exact (Host.log_rewrites _ _ _).home.trans (hRemoved.trans hWritten)

theorem convertNext_home (c : Converter) (state : Batch × Host) (path : String) :
    (c.convertNext state path).2.disk.home = state.2.disk.home := by
  have hHome := c.convert_home path state.2
  unfold convertNext
  dsimp only
  split
  · next hRun => rwa [hRun] at hHome
  · next hRun =>
    rw [hRun] at hHome
    exact (Host.log_rewrites _ _ _).home.trans hHome

theorem convertEach_home (c : Converter) (paths : List String) (state : Batch × Host) :
    (paths.foldl c.convertNext state).2.disk.home = state.2.disk.home := by
  induction paths generalizing state with
  | nil => rfl
  | cons path rest ih => exact (ih _).trans (c.convertNext_home state path)

theorem convertAll_home (c : Converter) (folder : String) (h : Host) :
    (c.convertAll folder h).2.disk.home = h.disk.home := by
  have hNotice (message : String) : (h.log c.log message).disk.home = h.disk.home :=
    (h.log_rewrites c.log message).home
  unfold convertAll
  split
  · exact hNotice _
  · split
    · rfl
    · refine (c.convertEach_home _ _).trans ?_
      split
      · exact hNotice _
      · rfl

theorem perform_home (c : Converter) (task : ConversionTask) (h : Host) :
    (c.perform task h).2.disk.home = h.disk.home := by
  cases task with
  | recording path => exact c.convert_home path h
  | folder path => exact c.convertAll_home path h

/-! ## Two runs -/

/-- Two converters with the same folder for scripts. Each has its log at the same place aside, or
can log nothing. -/
structure Companions (log : Place) (d : Disk) (c c' : Converter) : Prop where
  output : c'.output = c.output
  first : Host.LogsAt c.log log d
  second : Host.LogsAt c'.log log d
  way : log ∉ d.way c.output
  outside : ¬ d.locate c.output <+: log

theorem Companions.of_home {d d' : Disk} (hPair : Companions log d c c')
    (hHome : d'.home = d.home) : Companions log d' c c' where
  output := hPair.output
  first := hPair.first.of_home hHome
  second := hPair.second.of_home hHome
  way := by rw [Disk.way_eq_of_home hHome]; exact hPair.way
  outside := by rw [Disk.locate_eq_of_home hHome]; exact hPair.outside

/-- Both log something, not necessarily the same. -/
theorem Companions.logged (hPair : Companions log h.disk c c')
    (hAlike : h.disk.AlikeBut log h'.disk) (messages messages' : List String) :
    Disk.AlikeBut log (h.logAll c.log messages).disk (h'.logAll c'.log messages').disk :=
  Host.logged_alike hAlike hPair.first (hPair.second.of_home hAlike.home) messages messages'

theorem Companions.scriptPath (hPair : Companions log h.disk c c') (stem : String) :
    c'.scriptPath stem = c.scriptPath stem := by
  rw [Converter.scriptPath, hPair.output, Converter.scriptPath]

/-- No path of a script leads through the log. -/
theorem Companions.way_scriptPath {d : Disk} (hPair : Companions log d c c') (stem : String) :
    log ∉ d.way (c.scriptPath stem) := by
  intro hMem
  rcases Disk.mem_way_join (isPlain_scriptName stem) hMem with hOutput | hScript
  · exact hPair.way hOutput
  · exact hPair.outside (hScript ▸ List.prefix_append _ _)

theorem consume_alike (hPair : Companions log h.disk c c') (hAlike : h.disk.AlikeBut log h'.disk)
    (hWay : log ∉ h.disk.way path) (name script : String) (diagnostics : Nat) :
    Host.EndAlike log (c.consume path name script diagnostics h)
      (c'.consume path name script diagnostics h') := by
  have hRemove := hAlike.remove hWay
  have hHome (disk : Disk) (hRemoved : h.disk.remove path = .ok disk) :
      disk.home = h.disk.home := (Disk.edits_of_remove hRemoved).1.home
  unfold consume
  generalize h.disk.remove path = removed at hRemove hHome ⊢
  generalize h'.disk.remove path = removed' at hRemove ⊢
  cases hRemove with
  | ok hDisks =>
    exact ⟨rfl, (hPair.of_home (hHome _ rfl)).logged hDisks [_] [_]⟩
  | error fault =>
    exact ⟨rfl, hPair.logged hAlike [_, _] [_, _]⟩

theorem store_alike (hPair : Companions log h.disk c c') (hAlike : h.disk.AlikeBut log h'.disk)
    (hWay : log ∉ h.disk.way path) (name stem : String) (s : Script) :
    Host.EndAlike log (c.store path name stem s h) (c'.store path name stem s h') := by
  obtain ⟨hResult, hMade⟩ := hAlike.makeFolders hPair.way
  have hHome := (h.disk.makeFolders_changesOnly c.output).home
  unfold store
  rw [hPair.output, hPair.scriptPath]
  generalize h.disk.makeFolders c.output = folders at hResult hMade hHome ⊢
  generalize h'.disk.makeFolders c.output = folders' at hResult hMade ⊢
  obtain ⟨result, disk⟩ := folders
  obtain ⟨result', disk'⟩ := folders'
  obtain rfl : result' = result := hResult
  cases result' with
  | error fault => exact ⟨rfl, hMade⟩
  | ok _ =>
    dsimp only at hMade hHome ⊢
    have hPair' := hPair.of_home hHome
    have hWrite := hMade.write (hPair'.way_scriptPath stem) s.source.toUTF8
    unfold Disk.writeText
    have hWritten (written : Disk)
        (hOk : disk.write (c.scriptPath stem) s.source.toUTF8 = .ok written) :
        written.home = disk.home := (Disk.edits_of_write hOk).1.home
    generalize disk.write (c.scriptPath stem) s.source.toUTF8 = outcome at hWrite hWritten ⊢
    generalize disk'.write (c.scriptPath stem) s.source.toUTF8 = outcome' at hWrite ⊢
    cases hWrite with
    | error fault => exact ⟨rfl, hMade⟩
    | ok hDisks =>
      have hAll := (hWritten _ rfl).trans hHome
      exact consume_alike (hPair.of_home hAll) hDisks (by rwa [Disk.way_eq_of_home hAll]) _ _ _

/-- A recording is converted alike. -/
theorem convert_alike (hPair : Companions log h.disk c c') (hAlike : h.disk.AlikeBut log h'.disk)
    (hWay : log ∉ h.disk.way path) :
    Host.EndAlike log (c.convert path h) (c'.convert path h') := by
  unfold convert
  rw [hAlike.readText hWay]
  cases Path.stem? path with
  | none => exact ⟨rfl, hAlike⟩
  | some stem =>
    dsimp only
    cases h.disk.readText path with
    | error fault => exact ⟨rfl, hAlike⟩
    | ok text =>
      dsimp only
      cases Recording.ofText text with
      | error fault => exact ⟨rfl, hAlike⟩
      | ok r =>
        have hNoted (messages : List String) := (Host.logAll_alike hPair.first messages).home
        exact store_alike (hPair.of_home (hNoted _)) (hPair.logged hAlike _ _)
          (by rwa [Disk.way_eq_of_home (hNoted _)]) _ _ _

theorem convertNext_alike (hPair : Companions log h.disk c c')
    (hAlike : h.disk.AlikeBut log h'.disk) (hWay : log ∉ h.disk.way path) (batch : Batch) :
    Host.EndAlike log (c.convertNext (batch, h) path) (c'.convertNext (batch, h') path) := by
  obtain ⟨hResult, hDisks⟩ := convert_alike hPair hAlike hWay
  have hHome := c.convert_home path h
  unfold convertNext
  dsimp only
  generalize c.convert path h = first at hResult hDisks hHome ⊢
  generalize c'.convert path h' = second at hResult hDisks ⊢
  obtain ⟨result, left⟩ := first
  obtain ⟨result', right⟩ := second
  obtain rfl : result' = result := hResult
  cases result' with
  | ok converted => exact ⟨rfl, hDisks⟩
  | error failure => exact ⟨rfl, (hPair.of_home hHome).logged hDisks [_] [_]⟩

/-- One recording after the other is converted alike. -/
theorem convertEach_alike {paths : List String} (hPair : Companions log h.disk c c')
    (hAlike : h.disk.AlikeBut log h'.disk) (hWays : ∀ path ∈ paths, log ∉ h.disk.way path)
    (batch : Batch) :
    Host.EndAlike log (paths.foldl c.convertNext (batch, h))
      (paths.foldl c'.convertNext (batch, h')) := by
  induction paths generalizing h h' batch with
  | nil => exact ⟨rfl, hAlike⟩
  | cons path rest ih =>
    rw [List.forall_mem_cons] at hWays
    obtain ⟨hBatch, hDisks⟩ := convertNext_alike hPair hAlike hWays.1 batch
    have hHome := c.convertNext_home (batch, h) path
    rw [List.foldl_cons, List.foldl_cons]
    generalize c.convertNext (batch, h) path = first at hBatch hDisks hHome ⊢
    generalize c'.convertNext (batch, h') path = second at hBatch hDisks ⊢
    obtain ⟨batch, left⟩ := first
    obtain ⟨batch', right⟩ := second
    obtain rfl : batch' = batch := hBatch
    exact ih (hPair.of_home hHome) hDisks
      (fun other hOther => by rw [Disk.way_eq_of_home hHome]; exact hWays.2 other hOther) batch'

/-- No path into a folder leads through what is outside. -/
theorem way_join_of_lists {d : Disk} {folder : String} (hWay : log ∉ d.way folder)
    (hOutside : ¬ d.locate folder <+: log) {name : String} (hLists : d.Lists folder name) :
    log ∉ d.way (Path.join folder name) := by
  intro hMem
  rcases Disk.mem_way_join (Path.isPlain_of_isName hLists.isName) hMem with hFolder | hName
  · exact hWay hFolder
  · exact hOutside (hName ▸ List.prefix_append _ _)

theorem recordings_alike {d d' : Disk} {folder : String} (hAlike : d.AlikeBut log d')
    (hWay : log ∉ d.way folder) (hOutside : ¬ d.locate folder <+: log) :
    recordings d' folder = recordings d folder := by
  unfold recordings
  rw [hAlike.list hWay hOutside]
  cases hList : d.list folder with
  | error fault => rfl
  | ok names =>
    simp only [bind, Except.bind, Except.ok.injEq]
    refine List.filter_congr fun path hMem => ?_
    obtain ⟨name, hName, rfl⟩ := List.mem_map.1 hMem
    rw [hAlike.isFile (way_join_of_lists hWay hOutside ⟨names, hList, hName⟩)]

/-- A folder is converted alike. -/
theorem convertAll_alike {folder : String} (hPair : Companions log h.disk c c')
    (hAlike : h.disk.AlikeBut log h'.disk) (hWay : log ∉ h.disk.way folder)
    (hOutside : ¬ h.disk.locate folder <+: log) :
    Host.EndAlike log (c.convertAll folder h) (c'.convertAll folder h') := by
  unfold convertAll
  rw [hAlike.has hWay, recordings_alike hAlike hWay hOutside]
  split
  · exact ⟨rfl, hPair.logged hAlike [_] [_]⟩
  · cases hPaths : recordings h.disk folder with
    | error fault => exact ⟨rfl, hAlike⟩
    | ok paths =>
      cases paths with
      | nil => exact ⟨rfl, hPair.logged hAlike [_] [_]⟩
      | cons path rest =>
        have hWays : ∀ other ∈ path :: rest, log ∉ h.disk.way other := by
          intro other hOther
          obtain ⟨names, hNames, hAll⟩ := recordings_eq_ok.1 hPaths
          rw [hAll] at hOther
          obtain ⟨name, hName, rfl⟩ := List.mem_map.1 (List.mem_filter.1 hOther).1
          exact way_join_of_lists hWay hOutside ⟨names, hNames, hName⟩
        obtain ⟨hBatch, hDisks⟩ := convertEach_alike hPair hAlike hWays {}
        exact ⟨congrArg Except.ok hBatch, hDisks⟩

theorem perform_alike {task : ConversionTask} (hPair : Companions log h.disk c c')
    (hAlike : h.disk.AlikeBut log h'.disk) (hAvoids : task.Avoids log h.disk) :
    Host.EndAlike log (c.perform task h) (c'.perform task h') := by
  cases task with
  | recording path =>
    obtain ⟨hResult, hDisks⟩ := convert_alike hPair hAlike hAvoids
    exact ⟨congrArg ConversionResult.recording hResult, hDisks⟩
  | folder path =>
    obtain ⟨hResult, hDisks⟩ := convertAll_alike hPair hAlike hAvoids.1 hAvoids.2
    exact ⟨congrArg ConversionResult.folder hResult, hDisks⟩

theorem avoids_of_home {d d' : Disk} (hHome : d'.home = d.home) {task : ConversionTask}
    (hAvoids : task.Avoids log d) : task.Avoids log d' := by
  cases task with
  | recording path => rwa [ConversionTask.Avoids, Disk.way_eq_of_home hHome]
  | folder path =>
    rwa [ConversionTask.Avoids, Disk.way_eq_of_home hHome, Disk.locate_eq_of_home hHome]

theorem performAll_alike {tasks : List ConversionTask} (hPair : Companions log h.disk c c')
    (hAlike : h.disk.AlikeBut log h'.disk) (hTasks : ∀ task ∈ tasks, task.Avoids log h.disk) :
    Host.EndAlike log (c.performAll h tasks) (c'.performAll h' tasks) := by
  induction tasks generalizing h h' with
  | nil => exact ⟨rfl, hAlike⟩
  | cons task tasks ih =>
    rw [List.forall_mem_cons] at hTasks
    obtain ⟨hFirst, hDisks⟩ := perform_alike hPair hAlike hTasks.1
    have hHome := c.perform_home task h
    obtain ⟨hRest, hAfter⟩ := ih (hPair.of_home hHome) hDisks fun other hOther =>
      avoids_of_home hHome (hTasks.2 other hOther)
    exact ⟨congrArg₂ List.cons hFirst hRest, hAfter⟩

/-- **The log cannot influence a conversion.** Two disks may differ in what stands in the log and
in whether it can be written. Where the log lies aside, conversions of recordings and of folders in
any order have the same results on both, and leave disks that differ in nothing but the log again.
That is also so if the second time nothing can be logged at all, as no path is given for the log:
so that the log cannot be written makes no conversion fail. -/
theorem performAll_unobserved (c : Converter) (tasks : List ConversionTask) {h h' : Host}
    (hAside : c.LogAside h.disk)
    (hTasks : ∀ task ∈ tasks, task.Avoids (h.disk.locate c.log) h.disk)
    (hAlike : h.disk.AlikeBut (h.disk.locate c.log) h'.disk) {log : String}
    (hLog : log = c.log ∨ log = "") :
    (performAll { c with log := log } h' tasks).1 = (c.performAll h tasks).1 ∧
      Disk.AlikeBut (h.disk.locate c.log) (c.performAll h tasks).2.disk
        (performAll { c with log := log } h' tasks).2.disk := by
  have hPair : Companions (h.disk.locate c.log) h.disk c { c with log := log } :=
    ⟨rfl, .inr rfl, hLog.symm.imp_right fun hSame => by rw [hSame], hAside.way, hAside.outside⟩
  obtain ⟨hResults, hDisks⟩ := performAll_alike hPair hAlike hTasks
  exact ⟨hResults, hDisks⟩

/-- The sample with a log that nothing can be put into. -/
def lockedSample : Host where
  disk := { sample.disk.put ["home", "conversion.log"] (.file "full".toUTF8) with
    locked := [["home", "conversion.log"]] }
  clock := sample.clock

/-- A recording and a folder with one that is none are converted, with a log and with none that can
be written. -/
theorem performAll_unobserved_locked :
    let c : Converter := ⟨"out", "conversion.log"⟩
    let tasks : List ConversionTask := [.recording "in/a.json", .folder "in"]
    (sample.disk.append c.log "x".toUTF8).isOk = true ∧
      (lockedSample.disk.append c.log "x".toUTF8).isOk = false ∧
      (c.performAll lockedSample tasks).1 = (c.performAll sample tasks).1 ∧
      (c.performAll lockedSample tasks).2.disk.has "out/a.cy.js" = true := by
  intro c tasks
  have hAside : c.LogAside sample.disk := ⟨by decide +kernel, by decide +kernel⟩
  have hTasks : ∀ task ∈ tasks, task.Avoids (sample.disk.locate c.log) sample.disk := by
    intro task hMem
    simp only [tasks, List.mem_cons, List.not_mem_nil, or_false] at hMem
    rcases hMem with rfl | rfl
    · exact (by decide +kernel : sample.disk.locate c.log ∉ sample.disk.way "in/a.json")
    · exact ⟨by decide +kernel, by decide +kernel⟩
  have hPlace : sample.disk.locate c.log = ["home", "conversion.log"] := by decide +kernel
  have hAlike : sample.disk.AlikeBut (sample.disk.locate c.log) lockedSample.disk := by
    rw [hPlace]
    refine ⟨rfl, by decide +kernel, fun place hOther => ?_⟩
    change List.contains [["home", "conversion.log"]] place = List.contains [] place
    simpa using hOther
  obtain ⟨hResults, -⟩ := performAll_unobserved c tasks hAside hTasks hAlike (.inl rfl)
  exact ⟨by decide +kernel, by decide +kernel, hResults, by decide +kernel⟩

end Converter
end SessionReplay
