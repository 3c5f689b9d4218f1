import SessionReplay.Proofs.Conversion.File
import SessionReplay.Proofs.Conversion.Recordings
import SessionReplay.Proofs.Json.Equality
import SessionReplay.Proofs.Json.Rereading
import SessionReplay.Proofs.Pipeline.Reports
import SessionReplay.Proofs.Pipeline.Session

/-!
# Every job runs its own script

Jobs may share a stem, and so the files of their recordings and scripts. As one job is run after
the other, each of them still runs what its own recording compiles to.

* `Pipeline.scriptPath`, `Job.fallbackTitle`: the script of a job, and its title where the recording
  has none.
* `MadeCall.launch?`: the start of the runner in a call; `MadeCall.RunsOwn`: it runs the script of
  the job.
* `Prepared`: what each call of a job finds on the disk; `prepared_next`: one call prepares the
  next.
* `Session.run_ownScript`: what there is when the runner is started; `Session.step_runsOwn`: what
  the session goes on with.
-/

namespace SessionReplay

open Storage Json

/-! ## The script of a job -/

/-- The stem of the recording that is stored for a job. Without a name the extension stands for
it. -/
def Job.fallbackTitle (j : Job) : String := if j.testName = "" then ".json" else j.stem

namespace Pipeline

def scriptPath (p : Pipeline) (j : Job) : String :=
  Path.join p.scriptsDir ((if j.testName = "" then "_json" else j.stem) ++ ".cy.js")

theorem scriptPath_eq (p : Pipeline) (j : Job) :
    p.converter.scriptPath j.fallbackTitle = p.scriptPath j := by
  rw [Converter.scriptPath, scriptName, scriptPath, Job.fallbackTitle]
  split
  · rfl
  · rw [Job.stem, fileStem_fileStem]
    rfl

theorem fileStem_ne_empty {name : String} (h : name ≠ "") : fileStem name ≠ "" := by
  intro hEmpty
  have hLength := length_fileStem name
  rw [hEmpty] at hLength
  exact h (String.length_eq_zero_iff.1 hLength.symm)

theorem stem?_recordingPath (p : Pipeline) (j : Job) :
    Path.stem? (p.recordingPath j) = some j.fallbackTitle := by
  rw [Path.stem?, recordingPath, Job.stem,
    Path.fileName?_join (isPlain_stem j.testName (by decide) (by decide)), Option.map_some,
    Job.fallbackTitle]
  split
  · next hEmpty =>
    rw [hEmpty]
    rfl
  · next hName =>
    have hDot : fileStem j.testName ++ ".json" = fileStem j.testName ++ "." ++ "json" := by
      rw [String.append_assoc]
      rfl
    rw [hDot, Path.splitName_dot (by decide) (fileStem_ne_empty hName)]
    rfl

end Pipeline

/-! ## Starts of the runner -/

/-- The runner as it is started in a call, if it is. -/
def MadeCall.launch? (p : Pipeline) : MadeCall → Option Launch
  | ⟨job, .execute script, _⟩ =>
    let i := p.runnerInvocation job script
    if i.holdsZero then none else some i.launch
  | _ => none

/-- The runner finds the disk of the call, and nothing else in the call changes it. -/
theorem Pipeline.execute_disk (p : Pipeline) (programs : Programs) (j : Job) (script : String)
    (d : Disk) : (p.execute programs j script d).2 =
      match (MadeCall.mk j (.execute script) d).launch? p with
      | some launch => (programs launch p.limit d).2
      | none => d := by
  simp only [execute, Invocation.run, MadeCall.launch?]
  split
  · rfl
  · dsimp only
    split <;> simp_all

/-- The script of a job is what its recording compiles to, and the recording is gone. -/
structure Compiled (p : Pipeline) (j : Job) (d : Disk) : Prop where
  script : ∃ r, decodeValue Recording.decode j.recording = .ok r ∧
    d.readText (p.scriptPath j) = .ok (Script.ofRecording r j.fallbackTitle).source
  consumed : d.has (p.recordingPath j) = false

/-- The runner is started with the script of its job and the run of the job. -/
structure MadeCall.RunsOwn (p : Pipeline) (m : MadeCall) (launch : Launch) : Prop
    extends Compiled p m.job m.disk where
  launch : launch = ⟨p.runner.program, p.runner.args ++ ["--spec", p.scriptPath m.job],
    [("TEST_RUN_ID", m.job.runId)]⟩

/-- What is assumed of a compilation: the log is neither of the two files of the job, and the text
of the recording is read as the recording. -/
structure MadeCall.Suits (p : Pipeline) (m : MadeCall) : Prop where
  recording : m.disk.locate p.conversionLog ≠ m.disk.locate (p.recordingPath m.job)
  script : m.disk.locate p.conversionLog ≠ m.disk.locate (p.scriptPath m.job)
  parsed : Json.parse m.job.recording.pretty = .ok m.job.recording

instance (p : Pipeline) (m : MadeCall) : Decidable (m.Suits p) :=
  decidable_of_iff
    (m.disk.locate p.conversionLog ≠ m.disk.locate (p.recordingPath m.job) ∧
      m.disk.locate p.conversionLog ≠ m.disk.locate (p.scriptPath m.job) ∧
      Json.parse m.job.recording.pretty = .ok m.job.recording)
    ⟨fun ⟨hRecording, hScript, hParsed⟩ => ⟨hRecording, hScript, hParsed⟩,
      fun h => ⟨h.recording, h.script, h.parsed⟩⟩

/-! ## One call prepares the next -/

/-- What a call of a job finds on the disk. -/
def Prepared (p : Pipeline) (j : Job) (d : Disk) : Call → Prop
  | .persist | .report => True
  | .compile path => path = p.recordingPath j ∧ d.readText path = .ok j.recording.pretty ∧
      ∃ gone, d.remove path = .ok gone
  | .execute script => script = p.scriptPath j ∧ Compiled p j d

variable {p : Pipeline} {j : Job}

theorem prepared_of_persist {d d' : Disk} {path : String}
    (h : p.persist j d = (.ok path, d')) : Prepared p j d' (.compile path) := by
  simp only [Pipeline.persist, Pipeline.store] at h
  split at h
  · simp [Except.map] at h
  · next d'' _ =>
    cases hWrite : d''.writeText (p.recordingPath j) j.recording.pretty with
    | error fault => simp [hWrite, Except.map] at h
    | ok written =>
      simp only [hWrite, Except.map, Prod.mk.injEq, Except.ok.injEq] at h
      obtain ⟨rfl, rfl⟩ := h
      exact ⟨rfl, Converter.readText_of_writeText hWrite, Disk.remove_of_write hWrite⟩

theorem prepared_of_compile {h h' : Host} {path script : String}
    (hPrepared : Prepared p j h.disk (.compile path))
    (hSuits : (MadeCall.mk j (.compile path) h.disk).Suits p)
    (hCompile : p.compile path h = (.ok script, h')) :
    Prepared p j h'.disk (.execute script) := by
  obtain ⟨rfl, hText, gone, hRemove⟩ := hPrepared
  have hConversion := p.converter.conversion (p.recordingPath j) h
  unfold Pipeline.compile at hCompile
  generalize p.converter.convert (p.recordingPath j) h = result at hConversion hCompile
  cases hConversion with
  | badName | unread | unparsed | noOutput | unwritten =>
    simp [Except.map, Except.mapError] at hCompile
  | @done stem r disk written after hCompiles hFolders hWrite hRemoval =>
    have hStem := hCompiles.named
    rw [p.stem?_recordingPath] at hStem
    obtain rfl := Option.some.inj hStem
    obtain ⟨text, hRead, hParse⟩ := hCompiles.parsed
    obtain rfl := Except.ok.inj (hText.symm.trans hRead)
    have hRecording : h.disk.locate p.converter.log ≠ h.disk.locate (p.recordingPath j) :=
      hSuits.recording
    have hScript : h.disk.locate p.converter.log ≠
        h.disk.locate (p.converter.scriptPath j.fallbackTitle) := by
      rw [p.scriptPath_eq]
      exact hSuits.script
    have hConsumed :=
      Converter.consumed_of_done hRecording hScript hCompiles hFolders hWrite hRemoval
    have hGone := Converter.gone_of_done hRecording hRemove hCompiles hFolders hWrite hRemoval
    simp only [Except.map, Except.mapError, Prod.mk.injEq, Except.ok.injEq] at hCompile
    obtain ⟨rfl, rfl⟩ := hCompile
    have hOwn := Recording.decodeValue_of_ofText hSuits.parsed hParse
    refine ⟨p.scriptPath_eq j, ⟨r, hOwn, ?_⟩, hGone⟩
    rw [← p.scriptPath_eq]
    exact hConsumed.script

/-- **A call leaves what the next call of its job needs.** -/
theorem prepared_next {programs : Programs} {h : Host} {c next : Call} {o o' : Outcome}
    (hPrepared : Prepared p j h.disk c)
    (hSuits : c.stage = .compiling → (MadeCall.mk j c h.disk).Suits p)
    (hProceed : c.proceed o (p.call programs j h c).1 = (o', some next)) :
    Prepared p j (p.call programs j h c).2.disk next := by
  cases c with
  | persist =>
    simp only [Pipeline.call, Pipeline.onDisk] at hProceed ⊢
    cases hPersist : p.persist j h.disk with
    | mk result d =>
      cases result with
      | error t => simp [hPersist, Call.proceed] at hProceed
      | ok path =>
        simp only [hPersist, Call.proceed, Prod.mk.injEq, Option.some.injEq] at hProceed ⊢
        obtain ⟨-, rfl⟩ := hProceed
        exact prepared_of_persist hPersist
  | compile path =>
    simp only [Pipeline.call] at hProceed ⊢
    cases hCompile : p.compile path h with
    | mk result h' =>
      cases result with
      | error t => simp [hCompile, Call.proceed] at hProceed
      | ok script =>
        simp only [hCompile, Call.proceed, Prod.mk.injEq, Option.some.injEq] at hProceed ⊢
        obtain ⟨-, rfl⟩ := hProceed
        exact prepared_of_compile hPrepared (hSuits rfl) hCompile
  | execute script =>
    obtain ⟨-, hNext⟩ := Prod.mk.inj hProceed
    obtain rfl := Option.some.inj hNext
    trivial
  | report => simp [Call.proceed] at hProceed

/-! ## Sessions -/

namespace Session

/-- Every call that was made found what it needs, and so will the next one. -/
structure Prepares (p : Pipeline) (s : Session) : Prop where
  next : ∃ k active, s.system.Staffed k active ∧ ∀ job call,
    active.bind Worker.call? = some (job, call) → Prepared p job s.disk call
  made : ∀ m ∈ s.made, Prepared p m.job m.disk m.call

theorem prepares_start (p : Pipeline) (limit : Nat) (disk : Disk) :
    Prepares p (start limit disk) :=
  ⟨⟨0, none, ⟨rfl, by simp, rfl⟩, by simp⟩, by simp [start]⟩

theorem Prepares.step {s : Session} (h : Prepares p s) (a : Step)
    (hSuits : ∀ m ∈ (s.step p a).made, m.call.stage = .compiling → m.Suits p) :
    Prepares p (s.step p a) := by
  obtain ⟨k, active, hs, hNext⟩ := h.next
  cases a with
  | action a hOpen =>
    obtain ⟨k', active', hs', hCalls⟩ := hs.act_call? hOpen
    refine ⟨⟨k', active', hs', fun job call hCall => ?_⟩, h.made⟩
    rcases hCalls job call hCall with hSame | rfl
    · exact hNext job call hSame
    · trivial
  | call i programs host =>
    rcases callEnd_cases hs i (p.behaviour programs { host with disk := s.disk }) with
      ⟨-, hIdle⟩ | ⟨job, o, c, rfl, hAt, hs'⟩
    · rw [step_idle hIdle]
      exact h
    · rw [step_call hAt] at hSuits ⊢
      have hOwn := hNext job c rfl
      have hOwnSuits := hSuits ⟨job, c, s.disk⟩
        (List.mem_append_right _ (List.mem_singleton_self _))
      refine ⟨⟨k, _, hs', fun job' next hCall => ?_⟩, fun m hMem => ?_⟩
      · obtain ⟨rfl, result, o', hResult, hProceed⟩ := Worker.call?_endCall hCall
        obtain rfl := Ending.returned.inj hResult
        exact prepared_next (h := { host with disk := s.disk }) hOwn hOwnSuits hProceed
      · rcases List.mem_append.1 hMem with hMem | hMem
        · exact h.made m hMem
        · obtain rfl := List.mem_singleton.1 hMem
          exact hOwn

theorem prepares_run (p : Pipeline) (limit : Nat) (disk : Disk) (steps : List Step)
    (hSuits : ∀ m ∈ (run p (start limit disk) steps).made, m.call.stage = .compiling → m.Suits p) :
    Prepares p (run p (start limit disk) steps) := by
  induction steps using List.reverseRecOn with
  | nil => exact prepares_start p limit disk
  | append_singleton steps a ih =>
    rw [run_append] at hSuits ⊢
    have hBefore := ih fun m hMem => hSuits m (mem_made_step hMem)
    exact hBefore.step a hSuits

theorem runsOwn_of_prepared {m : MadeCall} (h : Prepared p m.job m.disk m.call) {launch : Launch}
    (hLaunch : m.launch? p = some launch) : m.RunsOwn p launch := by
  obtain ⟨job, call, disk⟩ := m
  cases call with
  | persist | compile | report => simp [MadeCall.launch?] at hLaunch
  | execute script =>
    obtain ⟨hPath, hCompiled⟩ := h
    dsimp only at hPath
    subst hPath
    simp only [MadeCall.launch?] at hLaunch
    split at hLaunch
    · cases hLaunch
    · exact ⟨hCompiled, (Option.some.inj hLaunch).symm⟩

/-- **A session goes on with what the runner leaves.** When a worker is in the call that runs a
script, the runner is started with the script of its job on the disk of the session, or it is not
started and the disk stays as it is. -/
theorem step_runsOwn (p : Pipeline) (limit : Nat) (disk : Disk) (steps : List Step)
    (hSuits : ∀ m ∈ (run p (start limit disk) steps).made, m.call.stage = .compiling → m.Suits p)
    {i : Nat} {job : Job} {o : Outcome} {script : String}
    (hAt : (run p (start limit disk) steps).system.workers[i]? =
      some (.busy job o (.execute script))) (programs : Programs) (host : Host) :
    let s := run p (start limit disk) steps
    let next := (s.step p (.call i programs host)).disk
    (∃ launch, (MadeCall.mk job (.execute script) s.disk).RunsOwn p launch ∧
      next = (programs launch p.limit s.disk).2) ∨ next = s.disk := by
  intro s next
  have hStep : s.step p (.call i programs host) =
      { system := s.system.callEnd i (p.behaviour programs { host with disk := s.disk })
        disk := (p.call programs job { host with disk := s.disk } (.execute script)).2.disk
        made := s.made ++ [⟨job, .execute script, s.disk⟩] } := step_call hAt
  have hMade : (run p (start limit disk) (steps ++ [.call i programs host])).made =
      s.made ++ [⟨job, .execute script, s.disk⟩] := by
    rw [run_append]
    exact congrArg made hStep
  have hStillSuits : ∀ m ∈ (run p (start limit disk) (steps ++ [.call i programs host])).made,
      m.call.stage = .compiling → m.Suits p := by
    rw [hMade]
    intro m hMem hStage
    rcases List.mem_append.1 hMem with hMem | hMem
    · exact hSuits m hMem hStage
    · obtain rfl := List.mem_singleton.1 hMem
      cases hStage
  have hPrepared := (prepares_run p limit disk _ hStillSuits).made ⟨job, .execute script, s.disk⟩
    (hMade ▸ List.mem_append_right _ (List.mem_singleton_self _))
  have hNext : next = (p.execute programs job script s.disk).2 := congrArg Session.disk hStep
  rw [hNext, p.execute_disk]
  cases hLaunch : (MadeCall.mk job (.execute script) s.disk).launch? p with
  | none => exact .inr rfl
  | some launch => exact .inl ⟨launch, runsOwn_of_prepared hPrepared hLaunch, rfl⟩

/-- A worker takes a job and makes all of its calls, the programs leaving a report. -/
def sampleRun : List Step :=
  let turn : Step := .action (.workerStep 0 ⟨0, 0⟩)
  let call : List Step :=
    [turn, .call 0 Pipeline.oneReport { disk := .empty [], clock := fun _ => ⟨0, 0⟩ }]
  turn :: call ++ call ++ call ++ call ++ [turn, turn]

/-- A job without a name, which no submission can have. -/
def nameless : List Step :=
  .action (.submit ⟨⟨0⟩, "", "r1", .object [], ⟨0, 0⟩⟩) :: sampleRun

end Session
end SessionReplay
