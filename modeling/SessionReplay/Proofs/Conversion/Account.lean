import SessionReplay.Proofs.Conversion.Logging
import SessionReplay.Proofs.Script.Isolation

/-!
# The log tells all of a conversion

What is put into the log can be told from how a conversion ends: which messages, how many, and in
which order. Nothing that stood in the log goes. There is one exception: where the log is not there
yet and its path is that of the folder for scripts, or of one above it, a folder is made in its
place, and the log takes no more.

* `Converter.Account`: the messages about a conversion, told from its result.
* `Converter.Accounts`, `FolderAccount`: those about the recordings of a folder.
* `Disk.Keeps`: no folder goes, and something stands where something stood.
* `Host.Told`: the messages are in the log, or a folder stands in its place.
* `Converter.told_convert`, `told_convertAll`: so it is when something is converted.
* `Converter.log_complete`: the log tells all; `log_lost`: it does not in the exception.
-/

namespace SessionReplay

open Storage

/-! ## Accounts -/

namespace Converter

variable {c : Converter} {path : String} {h h' h'' : Host}

/-- The messages about the conversion of a recording, told from its result and from what is left.
There are none about a recording that could not be read. A script that could not be written leaves
those about the recording, and the source of one that was written is gone, or it is told that it is
not. As many diagnostics as are told are counted. -/
inductive Account (c : Converter) (path : String) (h : Host) :
    Except ConversionFailure Converted × Host → List String → Prop
  | unread {failure : ConversionFailure} {h' : Host} (hFailure : failure = .badName path ∨
      (∃ fault, failure = .read path fault) ∨ ∃ fault, failure = .parse path fault) :
    Account c path h (.error failure, h') []
  | unwritten {stem : String} {r : Recording} {failure : ConversionFailure} {h' : Host}
    (hCompiles : Compiles h.disk path stem r)
    (hFailure : (∃ fault, failure = .makeOutput c.output fault) ∨
      ∃ fault, failure = .write (c.scriptPath stem) fault) :
    Account c path h (.error failure, h')
      (viewportMessages (sourceName path) r ++
        diagnosticMessages (sourceName path) (Script.ofRecording r stem))
  | gone {stem : String} {r : Recording} {h' : Host} (hCompiles : Compiles h.disk path stem r)
    (hGone : h'.disk.has path = false) :
    Account c path h
      (.ok ⟨path, c.scriptPath stem,
        (diagnosticMessages (sourceName path) (Script.ofRecording r stem)).length⟩, h')
      (viewportMessages (sourceName path) r ++
        diagnosticMessages (sourceName path) (Script.ofRecording r stem) ++
        [convertedMessage (sourceName path) (c.scriptPath stem)])
  | kept {stem : String} {r : Recording} {fault : Fault} {h' : Host}
    (hCompiles : Compiles h.disk path stem r) (hKept : h'.disk.find path = h.disk.find path) :
    Account c path h
      (.ok ⟨path, c.scriptPath stem,
        (diagnosticMessages (sourceName path) (Script.ofRecording r stem)).length⟩, h')
      (viewportMessages (sourceName path) r ++
        diagnosticMessages (sourceName path) (Script.ofRecording r stem) ++
        [keptMessage (sourceName path) fault,
          convertedMessage (sourceName path) (c.scriptPath stem)])

/-- The messages about recordings that are converted one after the other. Behind those about a
recording that failed stands the one about its failure. -/
inductive Accounts (c : Converter) (h : Host) : List String → Batch × Host → List String → Prop
  | start : Accounts c h [] ({}, h) []
  | converted {done messages own : List String} {path : String} {batch : Batch} {before after : Host}
    {converted : Converted} (hBefore : Accounts c h done (batch, before) messages)
    (hOwn : Account c path before (.ok converted, after) own) :
    Accounts c h (done ++ [path])
      ({ batch with converted := batch.converted ++ [converted] }, after) (messages ++ own)
  | failed {done messages own : List String} {path : String} {batch : Batch} {before after : Host}
    {failure : ConversionFailure} (hBefore : Accounts c h done (batch, before) messages)
    (hOwn : Account c path before (.error failure, after) own) :
    Accounts c h (done ++ [path])
      ({ batch with failed := batch.failed ++ [⟨path, failure.message⟩] },
        after.log c.log failure.message) (messages ++ (own ++ [failure.message]))

/-- The messages about the conversion of a folder: one notice where there is nothing to convert. -/
inductive FolderAccount (c : Converter) (folder : String) (h : Host) :
    Except ConversionFailure Batch × Host → List String → Prop
  | noFolder {h' : Host} (hMissing : h.disk.has folder = false) :
    FolderAccount c folder h (.ok {}, h') [noFolderMessage folder]
  | unlisted {fault : Fault} {h' : Host} (hList : recordings h.disk folder = .error fault) :
    FolderAccount c folder h (.error (.list folder fault), h') []
  | noRecordings {h' : Host} (hNone : recordings h.disk folder = .ok []) :
    FolderAccount c folder h (.ok {}, h') [noRecordingsMessage folder]
  | recordings {paths messages : List String} {batch : Batch} {h' : Host} (hSome : paths ≠ [])
    (hPaths : Converter.recordings h.disk folder = .ok paths)
    (hAccounts : Accounts c h paths (batch, h') messages) :
    FolderAccount c folder h (.ok batch, h') messages

/-- The log is neither the recording nor its script. -/
structure LogApart (c : Converter) (d : Disk) (path : String) : Prop where
  source : d.locate c.log ≠ d.locate path
  script : ∀ stem, Path.stem? path = some stem → d.locate c.log ≠ d.locate (c.scriptPath stem)

theorem LogApart.of_home {d d' : Disk} (hApart : c.LogApart d path) (hHome : d'.home = d.home) :
    c.LogApart d' path := by
  have hLocate := Disk.locate_eq_of_home hHome
  refine ⟨?_, fun stem hStem => ?_⟩
  · rw [hLocate, hLocate]
    exact hApart.source
  · rw [hLocate, hLocate]
    exact hApart.script stem hStem

theorem account_done {stem : String} {r : Recording} {disk written : Disk}
    (hApart : c.LogApart h.disk path) (hCompiles : Compiles h.disk path stem r)
    (hFolders : (c.noted path stem r h).disk.makeFolders c.output = (.ok (), disk))
    (hWrite : disk.writeText (c.scriptPath stem) (Script.ofRecording r stem).source = .ok written) :
    Account c path h
      (c.consume path (sourceName path) (c.scriptPath stem)
        (Script.ofRecording r stem).diagnostics.length { c.noted path stem r h with disk := written })
      (messages path stem r ++ (removalEvents path (sourceName path) written ++
        [ConversionEvent.converted (sourceName path) (c.scriptPath stem)]).map
          ConversionEvent.message) := by
  obtain ⟨h', hRemoval, hConsume⟩ := c.consume_removal path (c.scriptPath stem)
    (Script.ofRecording r stem).diagnostics.length { c.noted path stem r h with disk := written }
  have hCount : (Script.ofRecording r stem).diagnostics.length =
      (diagnosticMessages (sourceName path) (Script.ofRecording r stem)).length := by
    rw [diagnosticMessages, List.length_map]
  rw [hConsume, hCount, removalEvents, messages]
  rcases source_of_done hApart.source hCompiles hFolders hWrite hRemoval with
    ⟨⟨gone, hRemove⟩, hGone⟩ | ⟨⟨fault, hRemove, -⟩, hKept⟩
  · rw [hRemove]
    exact .gone hCompiles hGone
  · rw [hRemove]
    exact .kept hCompiles hKept

/-- The messages that are logged are those of the account. -/
theorem account_convert (hApart : c.LogApart h.disk path) :
    Account c path h (c.convert path h) ((c.convertEvents path h).map ConversionEvent.message) := by
  unfold convert convertEvents
  cases hStem : Path.stem? path with
  | none => exact .unread (.inl rfl)
  | some stem =>
    dsimp only
    cases hRead : h.disk.readText path with
    | error fault => exact .unread (.inr (.inl ⟨fault, rfl⟩))
    | ok text =>
      dsimp only
      cases hParse : Recording.ofText text with
      | error fault => exact .unread (.inr (.inr ⟨fault, rfl⟩))
      | ok r =>
        have hCompiles : Compiles h.disk path stem r := ⟨hStem, text, hRead, hParse⟩
        change Account c path h (c.store path (sourceName path) stem (Script.ofRecording r stem)
          (c.noted path stem r h)) _
        dsimp only
        rw [List.map_append, message_recordingEvents]
        unfold store storeEvents
        cases hFolders : (c.noted path stem r h).disk.makeFolders c.output with
        | mk result disk =>
          cases result with
          | error fault =>
            rw [List.map_nil, List.append_nil]
            exact .unwritten hCompiles (.inl ⟨fault, rfl⟩)
          | ok _ =>
            dsimp only
            cases hWrite : disk.writeText (c.scriptPath stem) (Script.ofRecording r stem).source with
            | error fault =>
              rw [List.map_nil, List.append_nil]
              exact .unwritten hCompiles (.inr ⟨fault, rfl⟩)
            | ok written => exact account_done hApart hCompiles hFolders hWrite

end Converter

/-! ## Places that are kept -/

namespace Disk

variable {place : Place} {d d' d'' : Disk} {touched : Place → Prop}

/-- No folder goes, and something stands at a place where something stood. -/
structure Keeps (place : Place) (d d' : Disk) : Prop where
  home : d'.home = d.home
  folders : ∀ other, d.entry? other = some .folder → d'.entry? other = some .folder
  stays : (d.entry? place).isSome = true → (d'.entry? place).isSome = true

theorem Keeps.refl (place : Place) (d : Disk) : Keeps place d d := ⟨rfl, fun _ => id, id⟩

theorem Keeps.trans (h : Keeps place d d') (h' : Keeps place d' d'') : Keeps place d d'' :=
  ⟨h'.home.trans h.home, fun other hFolder => h'.folders other (h.folders other hFolder),
    fun hStands => h'.stays (h.stays hStands)⟩

theorem Rewrites.keeps (h : Rewrites place d d') : Keeps place d d' :=
  ⟨h.home, fun other => (h.folders other).2, h.stays⟩

theorem ChangesOnly.keeps (h : ChangesOnly touched d d') (hPlace : ¬ touched place) :
    Keeps place d d' := by
  refine ⟨h.home, h.folders, fun hStands => ?_⟩
  obtain ⟨entry, hEntry⟩ := Option.isSome_iff_exists.1 hStands
  rw [h.kept place entry hPlace hEntry]
  rfl

/-- A folder has come to the place of a log that was not there. -/
structure Covers (log : String) (d d' : Disk) : Prop where
  free : d.entry? (d.locate log) = none
  folder : d'.entry? (d.locate log) = some .folder

/-- The log is the folder that is made, or one above it. -/
def MadeFor (d : Disk) (log output : String) : Prop :=
  d.IsPlaceOf (Path.upwards output) (d.locate log)

theorem MadeFor.of_home {log output : String} (h : d.MadeFor log output)
    (hHome : d'.home = d.home) : d'.MadeFor log output := by
  have hLocate := locate_eq_of_home hHome
  obtain ⟨up, hUp, hPlace⟩ := h
  exact ⟨up, hUp, by rw [hLocate, hLocate, hPlace]⟩

/-- Where folders are made, the log is left alone, or a folder comes to its place. -/
theorem spares_or_covers (d : Disk) (log output : String) :
    d.Spares log (d.makeFolders output).2 ∨
      d.Covers log (d.makeFolders output).2 ∧ d.MadeFor log output := by
  have hChanges := d.makeFolders_changesOnly output
  rcases (d.makeFolders_tidies output).entries (d.locate log) with
    hSame | ⟨hNone, -, -⟩ | ⟨hMade, hFree, hFolder⟩
  · exact .inl ⟨hChanges.home, hChanges.locked, hChanges.folders, hSame⟩
  · exact hNone.elim
  · exact .inr ⟨⟨hFree, hFolder⟩, hMade⟩

end Disk

/-! ## What the log holds -/

namespace Converter

variable {c : Converter} {path : String} {h h' h'' : Host} {messages' more : List String}

/-- Messages were put behind what stood in the log. Or the log is the folder for scripts, or one
above it, that folder was not there, and has come to the place of the log. -/
inductive Told (c : Converter) (h : Host) (messages : List String) (h' : Host) : Prop
  | logged (hLogged : h.Logged c.log messages h')
  | covered (hMade : h.disk.MadeFor c.log c.output) (hCovers : h.disk.Covers c.log h'.disk)

theorem Told.trans (hFirst : c.Told h messages' h')
    (hKeeps : Disk.Keeps (h.disk.locate c.log) h.disk h'.disk)
    (hThen : h'.disk.Writable c.log → c.Told h' more h'')
    (hKeeps' : Disk.Keeps (h'.disk.locate c.log) h'.disk h''.disk) :
    c.Told h (messages' ++ more) h'' := by
  have hPlace := Disk.locate_eq_of_home hKeeps.home c.log
  cases hFirst with
  | covered hMade hCovers =>
    exact .covered hMade ⟨hCovers.free, hKeeps'.folders _ hCovers.folder⟩
  | logged hLogged =>
    cases hThen hLogged.writable with
    | logged hLogged' => exact .logged (hLogged.trans hLogged')
    | covered hMade hCovers =>
      refine .covered (hMade.of_home hKeeps.home.symm) ⟨?_, hPlace ▸ hCovers.folder⟩
      -- what stood in the place of the log would stand there still
      have hFree := hCovers.free
      rw [hPlace] at hFree
      rw [Option.eq_none_iff_forall_ne_some]
      intro entry hEntry
      have hStays := hKeeps.stays (by rw [hEntry]; rfl)
      rw [hFree] at hStays
      cases hStays

theorem consume_keeps (hSource : h.disk.locate c.log ≠ h.disk.locate path) (name script : String)
    (diagnostics : Nat) :
    Disk.Keeps (h.disk.locate c.log) h.disk (c.consume path name script diagnostics h).2.disk := by
  unfold consume
  cases hRemove : h.disk.remove path with
  | error fault =>
    have hKept := h.log_rewrites c.log (keptMessage name fault)
    have hLast := Host.log_rewrites_of_home hKept.home c.log (convertedMessage name script)
    exact hKept.keeps.trans hLast.keeps
  | ok disk =>
    have hRemoved := (Disk.edits_of_remove hRemove).1
    have hLast := Host.log_rewrites_of_home (h := { h with disk := disk }) hRemoved.home c.log
      (convertedMessage name script)
    exact (hRemoved.changesOnly.keeps hSource).trans hLast.keeps

/-- Behind the making of folders. -/
theorem store_keeps {stem : String} (hSource : h.disk.locate c.log ≠ h.disk.locate path)
    (hScript : h.disk.locate c.log ≠ h.disk.locate (c.scriptPath stem)) (name : String) (s : Script) :
    Disk.Keeps (h.disk.locate c.log) (h.disk.makeFolders c.output).2
      (c.store path name stem s h).2.disk := by
  have hMoved := Disk.locate_eq_of_home (h.disk.makeFolders_changesOnly c.output).home
  unfold store
  generalize h.disk.makeFolders c.output = folders at hMoved ⊢
  obtain ⟨result, disk⟩ := folders
  cases result with
  | error fault => exact .refl _ _
  | ok _ =>
    dsimp only at hMoved ⊢
    cases hWrite : disk.writeText (c.scriptPath stem) s.source with
    | error fault => exact .refl _ _
    | ok written =>
      have hWritten := (Disk.edits_of_write hWrite).1
      have hPlaces := Disk.locate_eq_of_home hWritten.home
      rw [hMoved] at hWritten
      have hSource' : written.locate c.log ≠ written.locate path := by
        rw [hPlaces, hPlaces, hMoved, hMoved]
        exact hSource
      have hConsumed := consume_keeps (h := { h with disk := written }) hSource' name
        (c.scriptPath stem) s.diagnostics.length
      rw [hPlaces, hMoved] at hConsumed
      exact (hWritten.changesOnly.keeps hScript).trans hConsumed

/-- What a conversion does to the place of the log. -/
theorem convert_keeps (hApart : c.LogApart h.disk path) :
    Disk.Keeps (h.disk.locate c.log) h.disk (c.convert path h).2.disk := by
  unfold convert
  cases hStem : Path.stem? path with
  | none => exact .refl _ _
  | some stem =>
    dsimp only
    cases h.disk.readText path with
    | error fault => exact .refl _ _
    | ok text =>
      dsimp only
      cases Recording.ofText text with
      | error fault => exact .refl _ _
      | ok r =>
        have hNoted := c.noted_rewrites path stem r h
        have hApart' := hApart.of_home hNoted.home
        have hMade : Disk.Keeps (h.disk.locate c.log) (c.noted path stem r h).disk
            ((c.noted path stem r h).disk.makeFolders c.output).2 :=
          ((c.noted path stem r h).disk.makeFolders_changesOnly c.output).keeps id
        have hStored := store_keeps hApart'.source (hApart'.script stem hStem) (sourceName path)
          (Script.ofRecording r stem)
        rw [Disk.locate_eq_of_home hNoted.home] at hStored
        exact hNoted.keeps.trans (hMade.trans hStored)

theorem told_log (hWritable : h.disk.Writable c.log) (message : String) :
    c.Told h [message] (h.log c.log message) :=
  .logged (Host.logged_log hWritable message)

/-- The log is told all of a conversion. -/
theorem told_convert (hWritable : h.disk.Writable c.log) (hApart : c.LogApart h.disk path) :
    c.Told h ((c.convertEvents path h).map ConversionEvent.message) (c.convert path h).2 := by
  have hNothing : c.Told h [] h := .logged (.of_writable h hWritable)
  unfold convert convertEvents
  cases hStem : Path.stem? path with
  | none => exact hNothing
  | some stem =>
    dsimp only
    cases h.disk.readText path with
    | error fault => exact hNothing
    | ok text =>
      dsimp only
      cases Recording.ofText text with
      | error fault => exact hNothing
      | ok r =>
        have hNoted : h.Logged c.log (messages path stem r) (c.noted path stem r h) :=
          Host.logged_logAll hWritable _
        have hApart' := hApart.of_home hNoted.home
        have hStored := store_keeps hApart'.source (hApart'.script stem hStem) (sourceName path)
          (Script.ofRecording r stem)
        have hFirst : c.Told h (messages path stem r) (c.noted path stem r h) := .logged hNoted
        dsimp only
        rw [List.map_append, message_recordingEvents]
        refine hFirst.trans (c.noted_rewrites path stem r h).keeps (fun hAgain => ?_) ?_
        · rcases (c.noted path stem r h).disk.spares_or_covers c.log c.output with
            hSpares | ⟨hCovers, hMade⟩
          · exact .logged (logged_store hAgain hSpares (hApart'.script stem hStem) hApart'.source _)
          · exact .covered hMade ⟨hCovers.free, hStored.folders _ hCovers.folder⟩
        · exact (((c.noted path stem r h).disk.makeFolders_changesOnly c.output).keeps id).trans
            hStored

/-! ## Folders of recordings -/

theorem next_keeps (hApart : c.LogApart h.disk path) (batch : Batch) :
    Disk.Keeps (h.disk.locate c.log) h.disk (c.convertNext (batch, h) path).2.disk := by
  have hConverted := convert_keeps hApart
  unfold convertNext
  dsimp only
  generalize c.convert path h = result at hConverted ⊢
  obtain ⟨outcome, h'⟩ := result
  cases outcome with
  | ok converted => exact hConverted
  | error failure =>
    exact hConverted.trans (Host.log_rewrites_of_home hConverted.home c.log failure.message).keeps

theorem told_next (hWritable : h.disk.Writable c.log) (hApart : c.LogApart h.disk path)
    (batch : Batch) :
    c.Told h ((c.nextEvents path h).map ConversionEvent.message)
      (c.convertNext (batch, h) path).2 := by
  have hTold := told_convert hWritable hApart
  have hKeeps := convert_keeps hApart
  unfold convertNext nextEvents
  rw [List.map_append]
  dsimp only
  generalize c.convert path h = result at hTold hKeeps ⊢
  obtain ⟨outcome, h'⟩ := result
  cases outcome with
  | ok converted => rwa [outcomeEvents, List.map_nil, List.append_nil]
  | error failure =>
    exact hTold.trans hKeeps (fun hAgain => told_log hAgain failure.message)
      (h'.log_rewrites c.log failure.message).keeps

theorem account_next {done : List String} {batch : Batch} {told : List String} {before : Host}
    (hBefore : Accounts c before done (batch, h) told) (hApart : c.LogApart h.disk path) :
    Accounts c before (done ++ [path]) (c.convertNext (batch, h) path)
      (told ++ (c.nextEvents path h).map ConversionEvent.message) := by
  have hOwn := account_convert hApart
  unfold convertNext nextEvents
  rw [List.map_append]
  dsimp only
  generalize c.convert path h = result at hOwn ⊢
  obtain ⟨outcome, h'⟩ := result
  cases outcome with
  | ok converted =>
    rw [outcomeEvents, List.map_nil, List.append_nil]
    exact hBefore.converted hOwn
  | error failure => exact hBefore.failed hOwn

variable {paths : List String}

theorem each_keeps (hApart : ∀ path ∈ paths, c.LogApart h.disk path) (batch : Batch) :
    Disk.Keeps (h.disk.locate c.log) h.disk (paths.foldl c.convertNext (batch, h)).2.disk := by
  induction paths generalizing h batch with
  | nil => exact .refl _ _
  | cons path rest ih =>
    rw [List.forall_mem_cons] at hApart
    have hFirst := next_keeps hApart.1 batch
    have hRest := ih (h := (c.convertNext (batch, h) path).2)
      (fun other hOther => (hApart.2 other hOther).of_home hFirst.home)
      (c.convertNext (batch, h) path).1
    rw [Disk.locate_eq_of_home hFirst.home] at hRest
    exact hFirst.trans hRest

theorem told_each (hWritable : h.disk.Writable c.log)
    (hApart : ∀ path ∈ paths, c.LogApart h.disk path) (batch : Batch) :
    c.Told h ((c.eachEvents h paths).map ConversionEvent.message)
      (paths.foldl c.convertNext (batch, h)).2 := by
  induction paths generalizing h batch with
  | nil => exact .logged (.of_writable h hWritable)
  | cons path rest ih =>
    rw [List.forall_mem_cons] at hApart
    have hFirst := told_next hWritable hApart.1 batch
    have hKeeps := next_keeps hApart.1 batch
    have hApart' : ∀ other ∈ rest, c.LogApart (c.convertNext (batch, h) path).2.disk other :=
      fun other hOther => (hApart.2 other hOther).of_home hKeeps.home
    rw [List.foldl_cons, eachEvents, List.map_append, ← convertNext_snd batch]
    exact hFirst.trans hKeeps (fun hAgain => ih hAgain hApart' _) (each_keeps hApart' _)

theorem accounts_each {done : List String} {batch : Batch} {told : List String} {before : Host}
    (hBefore : Accounts c before done (batch, h) told)
    (hApart : ∀ path ∈ paths, c.LogApart h.disk path) :
    Accounts c before (done ++ paths) (paths.foldl c.convertNext (batch, h))
      (told ++ (c.eachEvents h paths).map ConversionEvent.message) := by
  induction paths generalizing h batch done told with
  | nil => rwa [List.append_nil, eachEvents, List.map_nil, List.append_nil]
  | cons path rest ih =>
    rw [List.forall_mem_cons] at hApart
    have hFirst := account_next hBefore hApart.1
    have hKeeps := next_keeps hApart.1 batch
    have hApart' : ∀ other ∈ rest, c.LogApart (c.convertNext (batch, h) path).2.disk other :=
      fun other hOther => (hApart.2 other hOther).of_home hKeeps.home
    rw [List.append_cons, List.foldl_cons, eachEvents, List.map_append, ← convertNext_snd batch,
      ← List.append_assoc]
    exact ih hFirst hApart'

theorem account_convertAll {folder : String}
    (hApart : ∀ paths, recordings h.disk folder = .ok paths →
      ∀ path ∈ paths, c.LogApart h.disk path) :
    FolderAccount c folder h (c.convertAll folder h)
      ((c.convertAllEvents folder h).map ConversionEvent.message) := by
  unfold convertAll convertAllEvents
  cases hHas : h.disk.has folder with
  | false => exact .noFolder hHas
  | true =>
    cases hPaths : recordings h.disk folder with
    | error fault => exact .unlisted hPaths
    | ok paths =>
      cases paths with
      | nil => exact .noRecordings hPaths
      | cons path rest =>
        have hAccounts := accounts_each Accounts.start (hApart _ hPaths)
        exact .recordings (List.cons_ne_nil _ _) hPaths hAccounts

theorem told_convertAll {folder : String} (hWritable : h.disk.Writable c.log)
    (hApart : ∀ paths, recordings h.disk folder = .ok paths →
      ∀ path ∈ paths, c.LogApart h.disk path) :
    c.Told h ((c.convertAllEvents folder h).map ConversionEvent.message)
      (c.convertAll folder h).2 := by
  unfold convertAll convertAllEvents
  cases h.disk.has folder with
  | false => exact told_log hWritable _
  | true =>
    cases hPaths : recordings h.disk folder with
    | error fault => exact .logged (.of_writable h hWritable)
    | ok paths =>
      cases paths with
      | nil => exact told_log hWritable _
      | cons path rest => exact told_each hWritable (hApart _ hPaths) {}

/-! ## All is told -/

theorem isSet_iff {v : Viewport} : v.isSet = true ↔ v.width ≠ 0 ∧ v.height ≠ 0 := by
  have hPositive (n : UInt32) : 0 < n ↔ n ≠ 0 := by
    rw [UInt32.lt_iff_toNat_lt, Ne, ← UInt32.toNat_inj]
    exact Nat.pos_iff_ne_zero
  rw [Viewport.isSet, Bool.and_eq_true, decide_eq_true_eq, decide_eq_true_eq, hPositive, hPositive]

/-- The size of the view is told if it was recorded and neither side is zero, and only then. -/
theorem viewportMessages_ne_nil (name : String) (r : Recording) :
    (viewportMessages name r ≠ [] ↔
        ∃ v, r.viewport = some v ∧ v.width ≠ 0 ∧ v.height ≠ 0) ∧
      ∀ v, r.viewport = some v → viewportMessages name r ≠ [] →
        viewportMessages name r = [(ConversionEvent.viewport name v).message] := by
  unfold viewportMessages
  cases r.viewport with
  | none => simp
  | some v =>
    dsimp only
    split
    · next hSet => simp [isSet_iff.1 hSet, ConversionEvent.message]
    · next hUnset =>
      rw [isSet_iff] at hUnset
      simpa using hUnset

/-- The diagnostics are told in the order of their steps. -/
theorem diagnosticMessages_eq (name stem : String) (r : Recording) :
    diagnosticMessages name (Script.ofRecording r stem) =
        (Script.ofRecording r stem).diagnostics.map (fun d => name ++ ": " ++ d.message) ∧
      (Script.ofRecording r stem).diagnostics.Pairwise (·.index < ·.index) := by
  refine ⟨rfl, ?_⟩
  rw [Script.diagnostics_ofRecording]
  exact Script.stepDiagnostics_increasing 0 r.steps

/-- **The log tells all of a conversion.** Nothing that stood in the log goes, and the messages that
its result calls for stand behind it, each with the time, in order: those about the view and about
the steps without instructions, which are counted in the result, that the source could not be
deleted, and that the recording was converted. For a folder, the message of the failure stands
behind those about the recording that failed, and there is a notice if there is nothing to convert.
The log has to be open to what is put into it, and may be none of the recordings and scripts. There
is one exception: if the log is the folder for scripts, or one above it, and is not there yet, then
a folder may come to its place. -/
theorem log_complete (c : Converter) (h : Host) (hWritable : h.disk.Writable c.log) :
    (∀ path, c.LogApart h.disk path → ∃ told : List String,
      Account c path h (c.convert path h) told ∧ c.Told h told (c.convert path h).2) ∧
    (∀ folder, (∀ paths, recordings h.disk folder = .ok paths →
        ∀ path ∈ paths, c.LogApart h.disk path) → ∃ told : List String,
      FolderAccount c folder h (c.convertAll folder h) told ∧
        c.Told h told (c.convertAll folder h).2) ∧
    (∀ name r, (viewportMessages name r ≠ [] ↔
        ∃ v, r.viewport = some v ∧ v.width ≠ 0 ∧ v.height ≠ 0) ∧
      ∀ v, r.viewport = some v → viewportMessages name r ≠ [] →
        viewportMessages name r = [(ConversionEvent.viewport name v).message]) ∧
    ∀ name stem r, diagnosticMessages name (Script.ofRecording r stem) =
        (Script.ofRecording r stem).diagnostics.map (fun d => name ++ ": " ++ d.message) ∧
      (Script.ofRecording r stem).diagnostics.Pairwise (·.index < ·.index) :=
  ⟨fun _ hApart => ⟨_, account_convert hApart, told_convert hWritable hApart⟩,
    fun _ hApart => ⟨_, account_convertAll hApart, told_convertAll hWritable hApart⟩,
    viewportMessages_ne_nil, diagnosticMessages_eq⟩

theorem logApart_sample {log : String} (hLog : log = "conversion.log" ∨ log = "out")
    (hPath : path = "in/a.json" ∨ path = "in/b.json") :
    LogApart ⟨"out", log⟩ sample.disk path := by
  have hOutput : sample.disk.locate "out" = ["home", "out"] := by decide +kernel
  have hPlaces : ∀ log ∈ ["conversion.log", "out"], ∀ path ∈ ["in/a.json", "in/b.json"],
      sample.disk.locate log ≠ sample.disk.locate path := by decide +kernel
  refine ⟨hPlaces log (by simpa using hLog) path (by simpa using hPath), fun stem _ => ?_⟩
  rw [locate_scriptPath, hOutput]
  rcases hLog with rfl | rfl
  · have hLog : sample.disk.locate "conversion.log" = ["home", "conversion.log"] := by
      decide +kernel
    simp [hLog]
  · simp [hOutput]

/-- Of two recordings in a folder one is converted, and one is none. -/
theorem log_complete_sample :
    let c : Converter := ⟨"out", "conversion.log"⟩
    let run := c.convertAll "in" sample
    sample.disk.Writable c.log ∧
      (∃ told : List String, FolderAccount c "in" sample run told ∧ c.Told sample told run.2) ∧
      run.2.disk.contents c.log =
        ("[1970-01-01T00:00:00.000Z] Converted a.json -> out/a.cy.js\n" ++
          "[1970-01-01T00:00:00.000Z] Failed to parse recording in/b.json: " ++
          "expected value at line 1 column 1\n").toUTF8 := by
  intro c run
  have hWritable : sample.disk.Writable c.log := by decide +kernel
  have hPaths : (recordings sample.disk "in").toOption = some ["in/a.json", "in/b.json"] := by
    decide +kernel
  refine ⟨hWritable, (log_complete c sample hWritable).2.1 "in" ?_, ?_⟩
  · intro paths hFound path hMem
    rw [hFound] at hPaths
    obtain rfl := Option.some.inj hPaths
    exact logApart_sample (.inl rfl) (by simpa using hMem)
  · exact ByteArray.ext (by decide +kernel)

/-- If the log is the folder for scripts and is not there, what was converted is not told. -/
theorem log_lost :
    ¬ ∀ (c : Converter) (path : String) (h : Host), h.disk.Writable c.log →
      c.LogApart h.disk path → ∃ told : List String, Account c path h (c.convert path h) told ∧
        h.Logged c.log told (c.convert path h).2 := by
  intro hAll
  obtain ⟨told, -, hLogged⟩ := hAll ⟨"out", "out"⟩ "in/a.json" sample (by decide +kernel)
    (logApart_sample (.inr rfl) (.inl rfl))
  have hFull : ¬ (convert ⟨"out", "out"⟩ "in/a.json" sample).2.disk.Writable "out" := by
    decide +kernel
  exact hFull hLogged.writable

end Converter
end SessionReplay
