import SessionReplay.Proofs.Queue.Turn
import Mathlib.Data.List.Forall2

/-!
# Jobs run in the order of their submission, once, and one at a time

* `InOrder`: calls of the stages of a job, in the order of the stages and from the first on.
* `RanAlone`: what was noted of a job that is finished; `RunsAlone`: of one that may not be.
* `Orderly`: the invariant of a scene; `turn_orderly` says that every turn keeps it.
* `run_fifo`: after every run the submissions are the finished jobs, the job in the slot and the
  waiting jobs, in this order, and the stage calls are those of one job after the other.
-/

namespace SessionReplay

/-! ## The calls of one job -/

def Stage.pipeline : List Stage := [.persisting, .compiling, .executing, .reporting]

/-- Calls of the stages from the first on, none of them left out and none made twice. -/
def InOrder (calls : List Call) : Prop := calls.map Call.stage <+: Stage.pipeline

/-- Calls of a job, each of which ends before the next one begins. -/
def callsOf (job : Job) (calls : List Call) : List CallEvent :=
  calls.flatMap fun call => [.began job call, .ended job call]

/-- What is noted of a job from its first call to its last. -/
def RanAlone (job : Job) (events : List CallEvent) : Prop :=
  ∃ calls, calls ≠ [] ∧ InOrder calls ∧ events = callsOf job calls

/-- What is noted of a job that may be in the last of its calls. -/
def RunsAlone (job : Job) (events : List CallEvent) : Prop :=
  ∃ before calls, InOrder (before ++ calls) ∧ calls.length ≤ 1 ∧
    events = callsOf job before ++ calls.map (.began job)

/-- What is noted of the job that is being run, if there is one. -/
def Underway : Option Job → List CallEvent → Prop
  | some job, events => RunsAlone job events
  | none, events => events = []

/-- The job that is stored by the call that begins. -/
def CallEvent.persisted? : CallEvent → Option Job
  | .began job .persist => some job
  | _ => none

theorem callsOf_append (job : Job) (calls : List Call) (call : Call) :
    callsOf job (calls ++ [call]) = callsOf job calls ++ [.began job call] ++ [.ended job call] := by
  simp [callsOf]

theorem InOrder.of_append {calls more : List Call} (h : InOrder (calls ++ more)) :
    InOrder calls := by
  rw [InOrder, List.map_append] at h
  exact (List.prefix_append _ _).trans h

/-- The call after another one is of the stage after its stage. -/
theorem proceed_stage {call next : Call} {o o' : Outcome} {result : Except Trouble call.Value}
    (h : call.proceed o result = (o', some next)) :
    (call.stage, next.stage) ∈ Stage.pipeline.zip Stage.pipeline.tail := by
  cases call with
  | report => simp [Call.proceed] at h
  | _ =>
    cases result <;> simp [Call.proceed] at h <;> obtain ⟨-, rfl⟩ := h <;>
      simp [Call.stage, Stage.pipeline]

theorem pipeline_next {l : List Stage} {a b : Stage} (h : l ++ [a] <+: Stage.pipeline)
    (hNext : (a, b) ∈ Stage.pipeline.zip Stage.pipeline.tail) :
    l ++ [a] ++ [b] <+: Stage.pipeline := by
  simp only [Stage.pipeline] at h hNext ⊢
  rcases l with _ | ⟨x, _ | ⟨y, _ | ⟨z, _ | ⟨w, l⟩⟩⟩⟩ <;> simp at h hNext ⊢ <;> grind

theorem InOrder.next {calls : List Call} {call next : Call} {o o' : Outcome}
    {result : Except Trouble call.Value} (h : InOrder (calls ++ [call]))
    (hProceed : call.proceed o result = (o', some next)) : InOrder (calls ++ [call] ++ [next]) := by
  rw [InOrder, List.map_append] at h
  rw [InOrder, List.map_append, List.map_append]
  exact pipeline_next h (proceed_stage hProceed)

/-! ### Calls that store the recording -/

theorem persisted_began (job : Job) (calls : List Call) :
    (calls.map (CallEvent.began job)).filterMap CallEvent.persisted? =
      List.replicate ((calls.map Call.stage).count .persisting) job := by
  induction calls with
  | nil => rfl
  | cons call calls ih =>
    rw [List.map_cons, List.filterMap_cons, ih]
    cases call <;> simp [CallEvent.persisted?, Call.stage, List.replicate_succ]

theorem persisted_callsOf (job : Job) (calls : List Call) :
    (callsOf job calls).filterMap CallEvent.persisted? =
      List.replicate ((calls.map Call.stage).count .persisting) job := by
  rw [← persisted_began]
  induction calls with
  | nil => rfl
  | cons call calls ih =>
    rw [callsOf, List.flatMap_cons, ← callsOf, List.filterMap_append, ih, List.map_cons,
      List.filterMap_cons]
    cases call <;> simp [CallEvent.persisted?, List.filterMap_cons]

theorem InOrder.count_le {calls : List Call} (h : InOrder calls) :
    (calls.map Call.stage).count .persisting ≤ 1 :=
  h.sublist.count_le _

theorem InOrder.count_pos {calls : List Call} (h : InOrder calls) (hCalls : calls ≠ []) :
    0 < (calls.map Call.stage).count .persisting := by
  obtain ⟨call, calls, rfl⟩ := List.exists_cons_of_ne_nil hCalls
  rw [InOrder, Stage.pipeline, List.map_cons, List.cons_prefix_cons] at h
  simp [h.1]

theorem RanAlone.persisted {job : Job} {events : List CallEvent} (h : RanAlone job events) :
    events.filterMap CallEvent.persisted? = [job] := by
  obtain ⟨calls, hCalls, hOrder, rfl⟩ := h
  have hLe := hOrder.count_le
  have hPos := hOrder.count_pos hCalls
  have hOne : (calls.map Call.stage).count .persisting = 1 := by omega
  rw [persisted_callsOf, hOne, List.replicate_one]

theorem RunsAlone.persisted {job : Job} {events : List CallEvent} (h : RunsAlone job events) :
    events.filterMap CallEvent.persisted? <+: [job] := by
  obtain ⟨before, calls, hOrder, -, rfl⟩ := h
  have hLe := hOrder.count_le
  rw [List.filterMap_append, persisted_callsOf, persisted_began,
    List.replicate_append_replicate, ← List.count_append, ← List.map_append,
    ← List.replicate_one]
  exact List.prefix_replicate_iff.mpr ⟨by simpa using hLe, by simp⟩

theorem persisted_flatten {jobs : List Job} {blocks : List (List CallEvent)}
    (h : List.Forall₂ RanAlone jobs blocks) :
    blocks.flatten.filterMap CallEvent.persisted? = jobs := by
  induction h with
  | nil => rfl
  | cons hBlock _ ih => simp [hBlock.persisted, ih]

/-! ## Outcomes and what is shown -/

/-- An outcome carries the names of its job. -/
structure Outcome.Of (job : Job) (o : Outcome) : Prop where
  jobId : o.jobId = job.id
  testName : o.testName = job.testName
  runId : o.runId = job.runId

theorem Outcome.of_start (job : Job) (now : Instant) : (Outcome.start job now).Of job :=
  ⟨rfl, rfl, rfl⟩

theorem Outcome.Of.record {job : Job} {o : Outcome} (h : o.Of job) (stage : Stage)
    (result : StageResult) : (o.record stage result).Of job :=
  ⟨h.jobId, h.testName, h.runId⟩

theorem Outcome.Of.finish {job : Job} {o : Outcome} (h : o.Of job) (now : Instant) :
    (o.finish now).Of job :=
  ⟨h.jobId, h.testName, h.runId⟩

theorem Outcome.Of.proceed {job : Job} {o o' : Outcome} {call : Call} {next : Option Call}
    {result : Except Trouble call.Value} (h : o.Of job)
    (hProceed : call.proceed o result = (o', next)) : o'.Of job := by
  cases call <;> cases result <;> cases hProceed <;> exact h.record _ _

/-- The names of the job that is shown. -/
def RunningJob.item (r : RunningJob) : QueuedJob := ⟨r.testName, r.runId⟩

theorem item_showStage (q : JobQueue) (stage : Stage) :
    (q.showStage stage).slot.map RunningJob.item = q.slot.map RunningJob.item := by
  rw [JobQueue.showStage, Option.map_map]
  rfl

/-! ## The invariant -/

/-- What is noted of the job that a worker has in hand. -/
def Worker.Noted : Worker → List CallEvent → Prop
  | .free, events | .leaving, events => events = []
  | .ready job _ call, events =>
    ∃ calls, InOrder (calls ++ [call]) ∧ events = callsOf job calls
  | .busy job _ call, events =>
    ∃ calls, InOrder (calls ++ [call]) ∧ events = callsOf job calls ++ [.began job call]
  | .complete job _, events | .aborted job _, events | .finished job _, events =>
    RanAlone job events

/-- The outcome that a worker has in hand is that of its job. -/
def Worker.Keeps : Worker → Prop
  | .free | .leaving | .aborted _ _ => True
  | .ready job o _ | .busy job o _ | .complete job o | .finished job o => o.Of job

def Scene.current (s : Scene) : Option Job := s.worker.bind Worker.job?

/-- Submissions, outcomes and stage calls of a scene fit its queue and its worker. -/
structure Orderly (s : Scene) : Prop where
  order : s.submitted = s.finished.map Prod.fst ++ s.current.toList ++ s.queue.waiting
  shown : s.queue.slot.map RunningJob.item = s.current.map QueuedJob.ofJob
  keeps : ∀ w ∈ s.worker, w.Keeps
  outcomes : ∀ p ∈ s.finished, p.2.Of p.1
  events : ∃ blocks events, s.events = blocks.flatten ++ events ∧
    List.Forall₂ RanAlone (s.finished.map Prod.fst) blocks ∧
    (s.worker.getD .free).Noted events

theorem start_orderly (limit : Nat) : Orderly (.start limit) where
  order := rfl
  shown := rfl
  keeps := by simp [Scene.start]
  outcomes := by simp [Scene.start]
  events := ⟨[], [], rfl, .nil, rfl⟩

/-- The worker goes on with its job, and what is noted is of this job. -/
theorem Orderly.goOn {s s' : Scene} (h : Orderly s) {w w' : Worker} {job : Job}
    (hWorker : s.worker = some w) (hWorker' : s'.worker = some w') (hJob : w.job? = some job)
    (hJob' : w'.job? = some job) (hSubmitted : s'.submitted = s.submitted)
    (hFinished : s'.finished = s.finished) (hWaiting : s'.queue.waiting = s.queue.waiting)
    (hShown : s'.queue.slot.map RunningJob.item = s.queue.slot.map RunningJob.item)
    (hKeeps : w.Keeps → w'.Keeps) {new : List CallEvent} (hEvents : s'.events = s.events ++ new)
    (hNoted : ∀ events, w.Noted events → w'.Noted (events ++ new)) : Orderly s' := by
  have hCurrent : s'.current = s.current := by
    rw [Scene.current, Scene.current, hWorker, hWorker', Option.bind_some, Option.bind_some, hJob,
      hJob']
  refine ⟨?_, ?_, ?_, ?_, ?_⟩
  · rw [hSubmitted, hFinished, hCurrent, hWaiting, h.order]
  · rw [hShown, hCurrent, h.shown]
  · rw [hWorker']
    rintro _ ⟨⟩
    exact hKeeps (h.keeps w hWorker)
  · rw [hFinished]
    exact h.outcomes
  · obtain ⟨blocks, events, hAll, hBlocks, hOpen⟩ := h.events
    rw [hWorker] at hOpen
    refine ⟨blocks, events ++ new, ?_, ?_, ?_⟩
    · rw [hEvents, hAll, List.append_assoc]
    · rw [hFinished]
      exact hBlocks
    · rw [hWorker']
      exact hNoted events hOpen

theorem Orderly.submit {s : Scene} (h : Orderly s) (job : Job) :
    Orderly { s with
      queue := s.queue.submit job
      worker := some (s.worker.getD .free)
      submitted := s.submitted ++ [job] } := by
  have hCurrent : (some (s.worker.getD .free)).bind Worker.job? = s.current := by
    rw [Scene.current]
    cases s.worker <;> rfl
  refine ⟨?_, ?_, ?_, h.outcomes, ?_⟩
  · simp only [Scene.current, hCurrent, JobQueue.submit_waiting, h.order, List.append_assoc]
  · simp only [Scene.current, hCurrent, JobQueue.submit_slot, h.shown]
  · rintro _ ⟨⟩
    cases hWorker : s.worker with
    | none => trivial
    | some w => exact h.keeps w hWorker
  · exact h.events

theorem Orderly.take {s : Scene} (h : Orderly s) {job : Job} {others : List Job} (now : Instant)
    (hWorker : s.worker = some .free) (hWaiting : s.queue.waiting = job :: others) :
    Orderly { s with
      queue := { s.queue with waiting := others, slot := some (RunningJob.start job now) }
      worker := some (.ready job (Outcome.start job now) .persist) } := by
  refine ⟨?_, rfl, ?_, h.outcomes, ?_⟩
  · have hOrder := h.order
    rw [Scene.current, hWorker, hWaiting] at hOrder
    simpa [Scene.current, Worker.job?] using hOrder
  · rintro _ ⟨⟩
    exact Outcome.of_start job now
  · obtain ⟨blocks, events, hAll, hBlocks, hOpen⟩ := h.events
    rw [hWorker] at hOpen
    refine ⟨blocks, events, hAll, hBlocks, [], ?_, hOpen⟩
    simp [InOrder, Call.stage, Stage.pipeline]

theorem Orderly.leave {s : Scene} (h : Orderly s) (hWorker : s.worker = some .free) :
    Orderly { s with
      queue := { s.queue with slot := none, draining := false }
      worker := none } := by
  refine ⟨?_, rfl, by simp, h.outcomes, ?_⟩
  · have hOrder := h.order
    rw [Scene.current, hWorker] at hOrder
    exact hOrder
  · have hEvents := h.events
    rw [hWorker] at hEvents
    exact hEvents

theorem Orderly.record {s : Scene} (h : Orderly s) {job : Job} {o : Outcome}
    (hWorker : s.worker = some (.finished job o)) :
    Orderly { s with
      queue := s.queue.record o
      worker := some .free
      finished := s.finished ++ [(job, o)] } := by
  refine ⟨?_, rfl, ?_, ?_, ?_⟩
  · have hOrder := h.order
    rw [Scene.current, hWorker] at hOrder
    simpa [Scene.current, Worker.job?] using hOrder
  · rintro _ ⟨⟩
    trivial
  · intro p hp
    rcases List.mem_append.mp hp with hp | hp
    · exact h.outcomes p hp
    · rw [List.mem_singleton.mp hp]
      exact h.keeps _ hWorker
  · obtain ⟨blocks, events, hAll, hBlocks, hOpen⟩ := h.events
    rw [hWorker] at hOpen
    refine ⟨blocks ++ [events], [], ?_, ?_, rfl⟩
    · simp [hAll]
    · rw [List.map_append]
      exact List.rel_append hBlocks (.cons hOpen .nil)

theorem turn_orderly {s s' : Scene} (h : Orderly s) (hTurn : Turn s s') : Orderly s' := by
  cases hTurn with
  | rest => exact h
  | submit job => exact h.submit job
  | take now hWorker hWaiting => exact h.take now hWorker hWaiting
  | leave hWorker _ => exact h.leave hWorker
  | record hWorker => exact h.record hWorker
  | callBegins hWorker =>
    refine h.goOn hWorker rfl rfl rfl rfl rfl rfl (item_showStage _ _) id rfl ?_
    rintro _ ⟨calls, hOrder, rfl⟩
    exact ⟨calls, hOrder, rfl⟩
  | callEnds result hWorker hProceed =>
    refine h.goOn hWorker rfl rfl rfl rfl rfl rfl rfl (fun hKeeps => hKeeps.proceed hProceed) rfl ?_
    rintro _ ⟨calls, hOrder, rfl⟩
    exact ⟨_, hOrder.next hProceed, (callsOf_append _ _ _).symm⟩
  | lastCallEnds result hWorker hProceed =>
    refine h.goOn hWorker rfl rfl rfl rfl rfl rfl rfl (fun hKeeps => hKeeps.proceed hProceed) rfl ?_
    rintro _ ⟨calls, hOrder, rfl⟩
    exact ⟨_, by simp, hOrder, (callsOf_append _ _ _).symm⟩
  | breakDown report hWorker =>
    refine h.goOn hWorker rfl rfl rfl rfl rfl rfl rfl (fun _ => trivial) rfl ?_
    rintro _ ⟨calls, hOrder, rfl⟩
    exact ⟨_, by simp, hOrder, (callsOf_append _ _ _).symm⟩
  | complete now hWorker =>
    refine h.goOn hWorker rfl rfl rfl rfl rfl rfl (item_showStage _ _)
      (fun hKeeps => Outcome.Of.finish hKeeps now) (List.append_nil _).symm ?_
    intro events hNoted
    rw [List.append_nil]
    exact hNoted
  | abort now hWorker =>
    refine h.goOn hWorker rfl rfl rfl rfl rfl rfl rfl
      (fun _ => ((Outcome.of_start _ now).record _ _).finish now) (List.append_nil _).symm ?_
    intro events hNoted
    rw [List.append_nil]
    exact hNoted

/-! ## Every run -/

theorem Worker.Noted.underway {w : Worker} {events : List CallEvent} (h : w.Noted events) :
    Underway w.job? events := by
  cases w with
  | free | leaving => exact h
  | ready job o call =>
    obtain ⟨calls, hOrder, rfl⟩ := h
    exact ⟨calls, [], by simpa using hOrder.of_append, by simp, by simp⟩
  | busy job o call =>
    obtain ⟨calls, hOrder, rfl⟩ := h
    exact ⟨calls, [call], hOrder, by simp, by simp⟩
  | complete | aborted | finished =>
    obtain ⟨calls, -, hOrder, rfl⟩ := h
    exact ⟨calls, [], by simpa using hOrder, by simp, by simp⟩

theorem Underway.persisted {current : Option Job} {events : List CallEvent}
    (h : Underway current events) :
    events.filterMap CallEvent.persisted? <+: current.toList := by
  cases current with
  | none => simp [show events = [] from h]
  | some job => exact RunsAlone.persisted h

theorem findSome?_crew (k : Nat) (active : Option Worker) :
    (crew k active).findSome? Worker.job? = active.bind Worker.job? := by
  induction k with
  | zero => cases active <;> simp [crew]
  | succ k ih =>
    rw [crew, List.replicate_succ, List.cons_append, List.findSome?_cons_of_isNone rfl]
    exact ih

theorem current_of_crew {s : System} {k : Nat} {active : Option Worker}
    (h : s.workers = crew k active) : s.current = active.bind Worker.job? := by
  rw [System.current, h, findSome?_crew]

theorem current_eq {h : History} {leaving : Nat} {active : Option Worker}
    (hs : h.system.Staffed leaving active) : h.system.current = (h.scene active).current :=
  current_of_crew hs.workers

namespace History

/-- **First in, first out, one at a time.** After every run the submissions are the finished jobs
in the order of their outcomes, then the job in the slot, then the waiting jobs. The outcomes are
those of their jobs, and the slot shows the job that is being run. The stage calls are those of
one finished job after the other, followed by those of the job in the slot; so the calls that
store a recording are for the first of the submissions, one call for each. -/
theorem run_fifo (limit : Nat) (actions : List Action) :
    let h := run limit actions
    h.system = actions.foldl System.act (.empty limit) ∧
    h.submitted = h.finished.map Prod.fst ++ h.system.current.toList ++ h.system.queue.waiting ∧
    h.submitted = actions.flatMap submissions ∧
    h.system.queue.slot.map RunningJob.item = h.system.current.map QueuedJob.ofJob ∧
    (∀ p ∈ h.finished, p.2.Of p.1) ∧
    (∃ blocks events, h.events = blocks.flatten ++ events ∧
      List.Forall₂ RanAlone (h.finished.map Prod.fst) blocks ∧
      Underway h.system.current events) ∧
    h.events.filterMap CallEvent.persisted? <+: h.submitted := by
  intro h
  obtain ⟨leaving, active, hs, hOrderly⟩ :=
    run_scene (start_orderly limit) (fun _ _ => turn_orderly) actions
  have hCurrent : h.system.current = (h.scene active).current := current_eq hs
  have hOrder : h.submitted =
      h.finished.map Prod.fst ++ h.system.current.toList ++ h.system.queue.waiting := by
    rw [hCurrent]
    exact hOrderly.order
  obtain ⟨blocks, events, hAll, hBlocks, hNoted⟩ := hOrderly.events
  have hOpen : Underway h.system.current events := by
    rw [hCurrent]
    cases active <;> exact hNoted.underway
  refine ⟨run_system limit actions, hOrder, run_submitted limit actions, ?_, hOrderly.outcomes,
    ⟨blocks, events, hAll, hBlocks, hOpen⟩, ?_⟩
  · rw [hCurrent]
    exact hOrderly.shown
  · have hPersisted : h.events.filterMap CallEvent.persisted? =
        h.finished.map Prod.fst ++ events.filterMap CallEvent.persisted? := by
      rw [show h.events = blocks.flatten ++ events from hAll, List.filterMap_append,
        persisted_flatten hBlocks]
      rfl
    rw [hPersisted, hOrder, List.append_assoc]
    exact (List.prefix_append_right_inj _).mpr (hOpen.persisted.trans (List.prefix_append _ _))

end History
end SessionReplay
