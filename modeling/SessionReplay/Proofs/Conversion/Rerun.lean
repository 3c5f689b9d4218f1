import SessionReplay.Proofs.Conversion.Folder

/-!
# Converting a folder twice

When a folder is converted once more, the recordings that failed fail again, and there is nothing
else to convert.

* `SameMessage`: how the message of a second failure may differ from that of the first.
* `Repeated`: what a second conversion comes to.
* `Converter.run_of_stuck`: recordings that are stuck fail, one after the other.
* `Converter.holds_iff_failure`: what is left to be converted is what failed.
* `Converter.convertAll_divides`: the first and the second conversion, for every folder.
-/

namespace SessionReplay

open Storage

namespace Converter

variable {c : Converter} {d d' : Disk} {folder : String} {paths : List String} {h h' : Host}
  {batch : Batch}

/-! ## Failures and their echoes -/

/-- How the message of a second failure may differ from that of the first: where something was in
the way of the folder for scripts, it may be found to be no folder. -/
def SameMessage (c : Converter) (first second : String) : Prop :=
  second = first ∨ first = (ConversionFailure.makeOutput c.output .alreadyExists).message ∧
    second = (ConversionFailure.makeOutput c.output .notFolder).message

/-- What a second conversion comes to: nothing is converted, and what failed fails again. -/
structure Repeated (c : Converter) (batch again : Batch) : Prop where
  converted : again.converted = []
  failed : again.failures.Perm batch.failures
  messages : ∀ y ∈ again.failed, ∃ x ∈ batch.failed, x.source = y.source ∧
    SameMessage c x.message y.message

theorem sameMessage_of_echoes {first second : ConversionFailure} (h : Echoes c first second) :
    SameMessage c first.message second.message := by
  rcases h with rfl | ⟨rfl, rfl⟩
  · exact .inl rfl
  · exact .inr ⟨rfl, rfl⟩

/-- A failure that is to be expected for a recording that failed before. -/
def Expected (c : Converter) (batch : Batch) (path : String) (failure : ConversionFailure) : Prop :=
  ∃ x ∈ batch.failed, x.source = path ∧
    ∃ first : ConversionFailure, x.message = first.message ∧ Echoes c first failure

theorem Expected.echoes {path : String} {first second : ConversionFailure}
    (h : Expected c batch path first) (hEchoes : Echoes c first second) :
    Expected c batch path second := by
  obtain ⟨x, hFailed, hSource, message, hMessage, hFirst⟩ := h
  exact ⟨x, hFailed, hSource, message, hMessage, hFirst.trans hEchoes⟩

/-- Recordings that are stuck fail, one after the other. -/
theorem run_of_stuck {todo : List String} {state : Batch × Host} (hApart : c.Apart state.2.disk)
    (hLog : ∀ path ∈ todo, state.2.disk.locate c.log ≠ state.2.disk.locate path)
    (hStuck : ∀ path ∈ todo, ∃ failure, Stuck c state.2.disk path failure ∧
      Expected c batch path failure) :
    ∃ failed, (todo.foldl c.convertNext state).1 =
        { state.1 with failed := state.1.failed ++ failed } ∧
      failed.map (·.source) = todo ∧
      ∀ y ∈ failed, ∃ failure, Expected c batch y.source failure ∧
        y.message = failure.message := by
  induction todo generalizing state with
  | nil => exact ⟨[], by simp⟩
  | cons path todo ih =>
    obtain ⟨soFar, host⟩ := state
    obtain ⟨failure, hHere, hFailure⟩ := hStuck path List.mem_cons_self
    obtain ⟨again, host', hConvert, hEchoes, hRewrites⟩ := convert_of_stuck hApart hHere
    have hAfter := hRewrites.trans
      (Host.log_rewrites_of_home hRewrites.home c.log again.message)
    have hPassage : Passage c (c.LogOnly host.disk) host.disk
      (host'.log c.log again.message).disk := .logged hAfter
    have hNext : c.convertNext (soFar, host) path =
        ({ soFar with failed := soFar.failed ++ [⟨path, again.message⟩] },
          host'.log c.log again.message) := by
      simp only [convertNext, hConvert]
    have hLog' : ∀ other ∈ todo, (host'.log c.log again.message).disk.locate c.log ≠
        (host'.log c.log again.message).disk.locate other := by
      intro other hMem
      simp only [Disk.locate_eq_of_home hAfter.home]
      exact hLog other (List.mem_cons_of_mem _ hMem)
    have hStuck' : ∀ other ∈ todo, ∃ failure,
        Stuck c (host'.log c.log again.message).disk other failure ∧
          Expected c batch other failure := by
      intro other hMem
      have hOther := hLog other (List.mem_cons_of_mem _ hMem)
      obtain ⟨first, hStill, hFirst⟩ := hStuck other (List.mem_cons_of_mem _ hMem)
      obtain ⟨second, hStuck', hEchoes'⟩ :=
        hStill.passage hApart hPassage hOther fun hSame => hOther hSame.symm
      exact ⟨second, hStuck', hFirst.echoes hEchoes'⟩
    rw [List.foldl_cons, hNext]
    obtain ⟨failed, hBatch, hSources, hMessages⟩ :=
      @ih ({ soFar with failed := soFar.failed ++ [⟨path, again.message⟩] },
        host'.log c.log again.message) (hApart.changes hPassage.changesOnly) hLog' hStuck'
    refine ⟨⟨path, again.message⟩ :: failed, ?_, ?_, ?_⟩
    · rw [hBatch]
      simp
    · simp [hSources]
    · intro y hMem
      rcases List.mem_cons.1 hMem with rfl | hMem
      · exact ⟨again, hFailure.echoes hEchoes, rfl⟩
      · exact hMessages y hMem

/-! ## What there is to convert -/

/-- A folder that is missing is not made by its conversion. -/
theorem missing_of_convertAll (hRest : c.Undisturbed h.disk folder)
    (hMissing : h.disk.has folder = false) (hRun : c.convertAll folder h = (.ok batch, h')) :
    batch = {} ∧ h'.disk.has folder = false := by
  obtain ⟨before, hLog, hEq⟩ := c.convertAll_of_finds (.inl ⟨hMissing, rfl⟩)
  rw [hEq] at hRun
  obtain ⟨hBatch, rfl⟩ := Prod.mk.inj hRun
  refine ⟨(Except.ok.inj hBatch).symm, ?_⟩
  refine Disk.not_has_edits hLog.toEdits hMissing fun hSame => ?_
  exact hRest.aside (hSame ▸ List.prefix_refl _)

theorem read_recording {place : Place} {bytes : ByteArray} {name : String}
    (hFolder : d.find folder = .ok (place, .folder))
    (hEntry : d.entry? (place ++ [name]) = some (.file bytes))
    (hSize : (Path.join folder name).utf8ByteSize ≤ maxPath) :
    d.find (Path.join folder name) = .ok (d.locate (Path.join folder name), .file bytes) ∧
      d.locate (Path.join folder name) = place ++ [name] := by
  have hFind := Disk.find_join (Disk.isName_of_stands hEntry) hFolder hSize hEntry
  have hPlace := Disk.locate_of_find hFind
  exact ⟨hPlace ▸ hFind, hPlace.symm⟩

/-- A recording that is still there was not touched: scripts and the log are no recordings, and
those that were converted are gone. -/
theorem left_untouched {place : Place} {bytes : ByteArray} {name : String}
    (hRest : c.Undisturbed d folder) (hFound : recordings d folder = .ok paths)
    (hProgress : Progress c d paths batch d') (hFind : d'.find folder = .ok (place, .folder))
    (hEntry : d'.entry? (place ++ [name]) = some (.file bytes))
    (hExtension : Path.extension? name = some "json") :
    ¬ batch.Touches c d (place ++ [name]) := by
  have hPlain := Path.isPlain_of_isName (Disk.isName_of_stands hEntry)
  have hFolder : place = d.locate folder := by
    rw [Disk.locate_of_find hFind, Disk.locate_eq_of_home hProgress.changes.home]
  rintro (hSame | ⟨x, hConverted, hSame | hSame⟩)
  · rw [hFolder] at hSame
    exact hRest.outside (hSame ▸ List.prefix_append _ _)
  · obtain ⟨other, ⟨_, _, -, hEntry', -⟩, hSource, hSize⟩ :=
      (mem_recordings hFound).1 (hProgress.converted.subset (List.mem_map_of_mem hConverted))
    have hOther := Path.isPlain_of_isName (Disk.isName_of_stands hEntry')
    rw [hSource, d.locate_join hOther, ← hFolder] at hSame
    obtain rfl := List.singleton_inj.1 (List.append_inj' hSame rfl).2
    rw [hSource] at hSize
    have hThere : d'.has (Path.join folder name) = true :=
      Disk.has_iff.2 ⟨_, _, (read_recording hFind hEntry hSize).1⟩
    rw [← hSource, hProgress.gone x hConverted] at hThere
    contradiction
  · obtain ⟨stem, hScript⟩ := hProgress.named x hConverted
    rw [hScript, hFolder, ← d.locate_join hPlain] at hSame
    refine c.locate_scriptPath_ne_recording d ?_ stem hSame.symm
    rw [Path.extension?_join hPlain, hExtension]

/-- **What is left to be converted is what failed.** -/
theorem holds_iff_failure {place : Place} (hRest : c.Undisturbed d folder)
    (hFound : recordings d folder = .ok paths) (hFolder : d.find folder = .ok (place, .folder))
    (hProgress : Progress c d paths batch d') {path : String} :
    (∃ name, d'.HoldsRecording folder name ∧ path = Path.join folder name ∧
      path.utf8ByteSize ≤ maxPath) ↔ path ∈ batch.failures := by
  have hSources := sources_of_finds hRest (.inr hFound)
  have hFolder' := Disk.find_folder_mono hProgress.changes hFolder
  constructor
  · rintro ⟨name, ⟨found, bytes, hFind, hEntry, hExtension⟩, rfl, hSize⟩
    obtain rfl : place = found := by
      have hSame := hFolder'.symm.trans hFind
      exact (Prod.mk.inj (Except.ok.inj hSame)).1
    have hUntouched := left_untouched hRest hFound hProgress hFolder' hEntry hExtension
    have hBefore := hProgress.changes.files _ bytes hUntouched hEntry
    have hMem := (mem_recordings hFound).2
      ⟨name, ⟨place, bytes, hFolder, hBefore, hExtension⟩, rfl, hSize⟩
    refine (List.mem_append.1 (hProgress.divided.mem_iff.2 hMem)).resolve_left fun hSource => ?_
    obtain ⟨x, hConverted, hSource⟩ := List.mem_map.1 hSource
    obtain ⟨-, hPlace⟩ := read_recording hFolder hBefore hSize
    refine hUntouched (.inr ⟨x, hConverted, .inl ?_⟩)
    rw [hSource, hPlace]
  · intro hMem
    obtain ⟨name, ⟨found, bytes, hFind, hEntry, hExtension⟩, rfl, hSize⟩ :=
      (mem_recordings hFound).1 (hProgress.failed.subset hMem)
    obtain rfl : place = found := by
      have hSame := hFolder.symm.trans hFind
      exact (Prod.mk.inj (Except.ok.inj hSame)).1
    obtain ⟨-, hPlace⟩ := read_recording hFind hEntry hSize
    have hUntouched := failure_untouched hSources hProgress hMem
    rw [hPlace] at hUntouched
    exact ⟨name, ⟨place, bytes, hFolder', hProgress.changes.kept _ _ hUntouched hEntry, hExtension⟩,
      rfl, hSize⟩

theorem holdsRecording_same {name : String} (hSame : Disk.Same d d') :
    d'.HoldsRecording folder name ↔ d.HoldsRecording folder name := by
  simp only [Disk.HoldsRecording, hSame.find_iff, hSame.entries]

/-- **What failed fails again**, where nothing else is left. -/
theorem repeated_of_progress {later : Host} {again : List String} (hRest : c.Undisturbed d folder)
    (hSources : Sources c d paths) (hProgress : Progress c d paths batch d')
    (hSame : Disk.Same d' later.disk) (hFinds : Finds later.disk folder again)
    (hLeft : ∀ path, path ∈ again ↔ path ∈ batch.failures) :
    ∃ batch' h'', c.convertAll folder later = (.ok batch', h'') ∧ Repeated c batch batch' := by
  -- what was stuck after the first run still is when the second one begins
  obtain ⟨before, hLog, hRun⟩ := c.convertAll_of_finds hFinds
  rw [Disk.locate_eq_of_home hSame.home] at hLog
  have hPassage : Passage c (fun _ => False) d' before.disk :=
    .logged ((hSame.rewrites _).trans hLog)
  have hApart := hRest.toApart.changes hProgress.changes
  have hHome : before.disk.home = d.home :=
    hPassage.changesOnly.home.trans hProgress.changes.home
  have hSource : ∀ path ∈ batch.failures, Source c d path := fun path hMem =>
    hSources.source path (hProgress.failed.subset hMem)
  have hLogged : ∀ path ∈ again, before.disk.locate c.log ≠ before.disk.locate path := by
    intro path hMem
    simp only [Disk.locate_eq_of_home hHome]
    exact (hSource path ((hLeft path).1 hMem)).log
  have hStuck : ∀ path ∈ again, ∃ failure, Stuck c before.disk path failure ∧
      Expected c batch path failure := by
    intro path hMem
    obtain ⟨x, hFailed, rfl⟩ := List.mem_map.1 ((hLeft path).1 hMem)
    obtain ⟨first, second, hMessage, hEchoes, hStuck⟩ := hProgress.stuck x hFailed
    have hOther := (hSource x.source ((hLeft x.source).1 hMem)).log
    simp only [← Disk.locate_eq_of_home hProgress.changes.home] at hOther
    obtain ⟨third, hStuck', hEchoes'⟩ := hStuck.passage hApart hPassage hOther id
    exact ⟨third, hStuck', x, hFailed, rfl, first, hMessage, hEchoes.trans hEchoes'⟩
  obtain ⟨failed, hBatch, hFailures, hMessages⟩ :=
    @run_of_stuck c batch again (({} : Batch), before) (hApart.changes hPassage.changesOnly)
      hLogged hStuck
  refine ⟨_, _, hRun, ?_⟩
  rw [hBatch]
  refine ⟨rfl, ?_, ?_⟩
  · change (failed.map (·.source)).Perm _
    rw [hFailures]
    have hNodup : batch.failures.Nodup := hSources.nodup.of_map.sublist hProgress.failed
    exact (List.perm_ext_iff_of_nodup (nodup_of_finds hFinds).of_map hNodup).2 hLeft
  · intro y hMem
    obtain ⟨failure, ⟨x, hFailed, hSource, first, hFirst, hEchoes⟩, hMessage⟩ := hMessages y hMem
    refine ⟨x, hFailed, hSource, ?_⟩
    rw [hFirst, hMessage]
    exact sameMessage_of_echoes hEchoes

theorem sample_undisturbed (hOutput : c.output = "out" ∨ c.output = "new/../file/x")
    (hLog : c.log = "conversion.log") (hFolder : sample.disk.locate folder = ["home", "in"]) :
    c.Undisturbed sample.disk folder := by
  have hPlace : sample.disk.locate "conversion.log" = ["home", "conversion.log"] := by
    decide +kernel
  have hOut : sample.disk.locate c.output = ["home", "out"] ∨
      sample.disk.locate c.output = ["home", "file", "x"] := by
    rcases hOutput with hOutput | hOutput
    · left
      rw [hOutput]
      decide +kernel
    · right
      rw [hOutput]
      decide +kernel
  refine ⟨⟨?_, ?_, ?_⟩, ?_, ?_, fun name _ => rfl⟩
  · rcases hOutput with hOutput | hOutput <;> rw [hOutput] <;> decide +kernel
  · rw [hLog, hPlace]
    rcases hOut with hOut | hOut <;> rw [hOut] <;> decide
  · rw [hLog, hPlace]
    rcases hOut with hOut | hOut <;> rw [hOut] <;> decide
  · rw [hLog, hPlace, hFolder]
    decide
  · rw [hLog, hPlace, hFolder]
    decide

/-- **Each recording of a folder is converted or fails, and what failed fails again.** The log is
assumed to be neither in the folder or in that for scripts nor above one of them, and recordings to
be removable. A recording is left out only if its path is too long to be looked up. On any later
disk on which the same stands everywhere, in whatever order, nothing is converted; the same
recordings fail with the same messages, except that what is in the way of the folder for scripts
may then be reported not to be a folder. -/
theorem convertAll_divides (c : Converter) (folder : String) (h h' : Host) (batch : Batch)
    (hRest : c.Undisturbed h.disk folder) (hRun : c.convertAll folder h = (.ok batch, h')) :
    Divided c folder h h' batch ∧
      ∀ later : Host, h'.disk.Same later.disk → ∃ again h'',
        c.convertAll folder later = (.ok again, h'') ∧ Repeated c batch again := by
  obtain ⟨paths, hFinds⟩ := finds_of_convertAll hRun
  have hSources := sources_of_finds hRest hFinds
  have hProgress := progress_of_convertAll hRest hFinds hRun
  refine ⟨divided_of_progress hSources hFinds hProgress, fun later hSame => ?_⟩
  rcases hFinds with ⟨hMissing, rfl⟩ | hFound
  · obtain ⟨rfl, hMissing'⟩ := missing_of_convertAll hRest hMissing hRun
    have hLater := Disk.not_has_edits hSame.edits hMissing' id
    exact repeated_of_progress hRest hSources hProgress hSame (.inl ⟨hLater, rfl⟩)
      fun path => Iff.rfl
  · obtain ⟨names, hNames, -⟩ := recordings_eq_ok.1 hFound
    obtain ⟨place, hFolder⟩ := Disk.find_of_list hNames
    have hFolder' := hSame.find_iff.2 (Disk.find_folder_mono hProgress.changes hFolder)
    obtain ⟨again, hAgain⟩ := exists_finds (.inr ⟨place, hFolder'⟩)
    refine repeated_of_progress hRest hSources hProgress hSame hAgain fun path => ?_
    rw [mem_of_finds hAgain, ← holds_iff_failure hRest hFound hFolder hProgress]
    simp only [holdsRecording_same hSame]

theorem convertAll_divides_sample :
    ∃ batch h' again h'', (⟨"out", "conversion.log"⟩ : Converter).convertAll "in" sample =
        (.ok batch, h') ∧
      batch.sources = ["in/a.json"] ∧ batch.failures = ["in/b.json"] ∧
      Divided ⟨"out", "conversion.log"⟩ "in" sample h' batch ∧
      (⟨"out", "conversion.log"⟩ : Converter).convertAll "in" h' = (.ok again, h'') ∧
      Repeated ⟨"out", "conversion.log"⟩ batch again := by
  have hRun : ((⟨"out", "conversion.log"⟩ : Converter).convertAll "in" sample).1 =
      .ok ⟨[⟨"in/a.json", "out/a.cy.js", 0⟩], [⟨"in/b.json", "Failed to parse recording " ++
        "in/b.json: expected value at line 1 column 1"⟩]⟩ := by decide +kernel
  have hRest : (⟨"out", "conversion.log"⟩ : Converter).Undisturbed sample.disk "in" :=
    sample_undisturbed (.inl rfl) rfl (by decide +kernel)
  obtain ⟨hDivided, hAgain⟩ := convertAll_divides _ "in" sample _ _ hRest (Prod.ext hRun rfl)
  obtain ⟨again, h'', hLater, hRepeated⟩ := hAgain _ ⟨rfl, rfl, fun _ => rfl⟩
  exact ⟨_, _, again, h'', Prod.ext hRun rfl, rfl, rfl, hDivided, hLater, hRepeated⟩

/-! ## Recordings that are left out, and messages that differ -/

/-- A path with dots behind it, which leads to the same folder. -/
def dotted (folder : String) : Nat → String
  | 0 => folder
  | n + 1 => dotted folder n ++ "/" ++ "."

theorem utf8ByteSize_dotted (folder : String) (n : Nat) :
    (dotted folder n).utf8ByteSize = folder.utf8ByteSize + 2 * n := by
  induction n with
  | zero => rfl
  | succ n ih =>
    have hSlash : "/".utf8ByteSize = 1 := rfl
    have hDot : ".".utf8ByteSize = 1 := rfl
    rw [dotted, String.utf8ByteSize_append, String.utf8ByteSize_append, ih, hSlash, hDot]
    omega

theorem getLast?_dotted (folder : String) (n : Nat) :
    (dotted folder (n + 1)).toList.getLast? = some '.' := by
  simp [dotted]

theorem find_dotted {place : Place} (hFolder : d.find folder = .ok (place, .folder)) {n : Nat}
    (hSize : (dotted folder n).utf8ByteSize ≤ maxPath) :
    d.find (dotted folder n) = .ok (place, .folder) := by
  induction n with
  | zero => exact hFolder
  | succ n ih =>
    have hShorter : (dotted folder n).utf8ByteSize ≤ maxPath := by
      rw [utf8ByteSize_dotted] at hSize ⊢
      omega
    obtain ⟨hCheck, hWalk, hEntry⟩ := Disk.find_eq_ok.1 (ih hShorter)
    obtain ⟨hNe, hZero, -⟩ := Disk.checkPath_eq_ok.1 hCheck
    have hPieces : Path.pieces (dotted folder (n + 1)) = Path.pieces (dotted folder n) ++ ["."] :=
      Path.pieces_append (by decide) _
    have hStart : d.start (dotted folder (n + 1)) = d.start (dotted folder n) := by
      obtain ⟨c, cs, hcs⟩ := List.exists_cons_of_ne_nil
        (fun h => hNe (String.toList_injective (by simpa using h)) : (dotted folder n).toList ≠ [])
      simp [Disk.start, Path.isAbsolute, dotted, hcs]
    have hReach := Disk.reach_eq_ok.2 ⟨hWalk, hEntry⟩
    have hDot : Path.isIdle "." = true := rfl
    rw [← Disk.reach_concat_of_isIdle d _ _ hDot, ← hPieces, ← hStart] at hReach
    obtain ⟨hWalk', -⟩ := Disk.reach_eq_ok.1 hReach
    refine Disk.find_eq_ok.2 ⟨Disk.checkPath_eq_ok.2 ⟨?_, ?_, hSize⟩, hWalk', hEntry⟩
    · simp [dotted]
    · simpa [dotted] using hZero

/-- In a folder whose path has no room for a name behind it, no recordings are found. -/
theorem eq_nil_of_long (hFinds : Finds d folder paths) (hLong : maxPath ≤ folder.utf8ByteSize + 1)
    (hLast : folder.toList.getLast? ≠ some '/') (hFolder : folder ≠ "") : paths = [] := by
  rw [List.eq_nil_iff_forall_not_mem]
  intro path hMem
  obtain ⟨name, ⟨_, _, -, hEntry, -⟩, rfl, hSize⟩ := (mem_of_finds hFinds).1 hMem
  have hName := Disk.isName_of_stands hEntry
  have hNonempty := Path.nonempty_of_isName hName
  have hSlash : "/".utf8ByteSize = 1 := rfl
  have hPos : name.utf8ByteSize ≠ 0 := by
    intro hZero
    rw [String.utf8ByteSize_eq_zero_iff] at hZero
    simp [hZero] at hNonempty
  rw [Path.join_eq (Path.not_mem_of_isName hName) hFolder, if_neg (by simpa using hLast),
    String.utf8ByteSize_append, String.utf8ByteSize_append, hSlash] at hSize
  omega

/-- Recordings with paths that are too long are neither converted nor do they fail, and a message
may differ when it is reported once more. -/
theorem convertAll_misses_and_varies :
    ((⟨"out", "conversion.log"⟩ : Converter).Undisturbed sample.disk (dotted "in" 2046) ∧
      sample.disk.HoldsRecording (dotted "in" 2046) "a.json" ∧
      ((⟨"out", "conversion.log"⟩ : Converter).convertAll (dotted "in" 2046) sample).1 =
        .ok {}) ∧
    (⟨"new/../file/x", "conversion.log"⟩ : Converter).Undisturbed sample.disk "in" ∧
    ∃ batch h' again h'',
      (⟨"new/../file/x", "conversion.log"⟩ : Converter).convertAll "in" sample = (.ok batch, h') ∧
      (⟨"new/../file/x", "conversion.log"⟩ : Converter).convertAll "in" h' = (.ok again, h'') ∧
      batch.failed.map (·.message) = ["Failed to create output directory new/../file/x: " ++
        "File exists (os error 17)",
        "Failed to parse recording in/b.json: expected value at line 1 column 1"] ∧
      again.failed.map (·.message) = ["Failed to create output directory new/../file/x: " ++
        "Not a directory (os error 20)",
        "Failed to parse recording in/b.json: expected value at line 1 column 1"] := by
  constructor
  · have hIn : "in".utf8ByteSize = 2 := rfl
    have hSize : (dotted "in" 2046).utf8ByteSize = 4094 := by rw [utf8ByteSize_dotted, hIn]
    have hFind : sample.disk.find (dotted "in" 2046) = .ok (["home", "in"], .folder) :=
      find_dotted (by decide +kernel) (by rw [hSize]; decide)
    have hLast := getLast?_dotted "in" 2045
    generalize dotted "in" 2046 = folder at *
    have hNe : folder ≠ "" := by
      rintro rfl
      simp at hLast
    refine ⟨sample_undisturbed (.inl rfl) rfl (Disk.locate_of_find hFind).symm,
      ⟨_, "{}".toUTF8, hFind, by decide +kernel, by decide +kernel⟩, ?_⟩
    obtain ⟨paths, hFinds⟩ := exists_finds (.inr ⟨_, hFind⟩)
    obtain rfl := eq_nil_of_long hFinds (by rw [hSize]; decide) (by rw [hLast]; decide) hNe
    obtain ⟨before, -, hRun⟩ :=
      convertAll_of_finds (h := sample) ⟨"out", "conversion.log"⟩ hFinds
    rw [hRun]
    rfl
  · refine ⟨sample_undisturbed (.inr rfl) rfl (by decide +kernel), ?_⟩
    have hRun : ((⟨"new/../file/x", "conversion.log"⟩ : Converter).convertAll "in" sample).1 =
        .ok ⟨[], [⟨"in/a.json", "Failed to create output directory new/../file/x: " ++
          "File exists (os error 17)"⟩, ⟨"in/b.json",
          "Failed to parse recording in/b.json: expected value at line 1 column 1"⟩]⟩ := by
      decide +kernel
    have hAgain : ((⟨"new/../file/x", "conversion.log"⟩ : Converter).convertAll "in"
        ((⟨"new/../file/x", "conversion.log"⟩ : Converter).convertAll "in" sample).2).1 =
        .ok ⟨[], [⟨"in/a.json", "Failed to create output directory new/../file/x: " ++
          "Not a directory (os error 20)"⟩, ⟨"in/b.json",
          "Failed to parse recording in/b.json: expected value at line 1 column 1"⟩]⟩ := by
      decide +kernel
    exact ⟨_, _, _, _, Prod.ext hRun rfl, Prod.ext hAgain rfl, rfl, rfl⟩

end Converter
end SessionReplay
