import SessionReplay.Proofs.Queue.Draining
import SessionReplay.Proofs.Queue.Submitting

/-!
# When jobs are started

A job is started when a worker takes it out of the queue. The jobs that were started are those that
have their outcomes and the one that is being worked on, so that a submission can be told how many
outcomes are yet to come before its job is started.

* `Worker.takes`, `System.starts`, `Dispatch.starts`: the jobs that are started in a step.
* `History.begun`: the jobs that are finished and the one in hand; `begun_act` says that an action
  adds those that it starts.
* `Dispatch.started`: the jobs that are started in a run; `started_eq` says that they are those
  that are finished and the one in hand.
* `Dispatch.run_position`: the position of a submission is the number of outcomes before its start.
-/

namespace SessionReplay

/-! ## Jobs that are taken -/

/-- The jobs that a worker takes in its next step. -/
def Worker.takes (q : JobQueue) : Worker → List Job
  | .free => q.waiting.head?.toList
  | _ => []

/-- The jobs that are started by an action. -/
def System.starts (s : System) : Action → List Job
  | .workerStep i _ => s.workers[i]?.toList.flatMap (Worker.takes s.queue)
  | _ => []

/-- The jobs that are finished and the one that is being worked on. -/
def History.begun (h : History) : List Job :=
  h.finished.map Prod.fst ++ h.system.current.toList

/-- What a worker has in hand or takes, it records or has in hand after the step. -/
theorem step_takes (w : Worker) (now : Instant) (q : JobQueue) :
    w.job?.toList ++ w.takes q =
      w.records.map Prod.fst ++ ((w.step now q).2.bind Worker.job?).toList := by
  cases w with
  | free =>
    cases hWaiting : q.waiting with
    | nil => simp [Worker.job?, Worker.takes, Worker.records, Worker.step, take_nil, hWaiting]
    | cons job others =>
      simp [Worker.job?, Worker.takes, Worker.records, Worker.step, take_cons hWaiting, hWaiting]
  | _ => rfl

theorem job?_endCall (w : Worker) (behaviour : Behaviour) :
    (w.endCall behaviour).job? = w.job? := by
  cases w with
  | busy job o call =>
    rw [Worker.endCall]
    split
    · rfl
    · split <;> rfl
  | _ => rfl

theorem findSome?_modify {α β : Type} {f : α → Option β} {g : α → α} (h : ∀ a, f (g a) = f a)
    (l : List α) (i : Nat) : (l.modify i g).findSome? f = l.findSome? f := by
  induction l generalizing i with
  | nil => simp
  | cons a l ih =>
    cases i with
    | zero => simp [List.findSome?_cons, h]
    | succ i => simp [List.findSome?_cons, ih]

theorem current_callEnd (s : System) (i : Nat) (behaviour : Behaviour) :
    (s.callEnd i behaviour).current = s.current :=
  findSome?_modify (fun w => job?_endCall w behaviour) _ _

theorem current_submit (s : System) (job : Job) : (s.submit job).current = s.current := by
  by_cases hDraining : s.queue.draining = true
  · simp [System.submit, System.current, hDraining]
  · simp [System.submit, System.current, hDraining, List.findSome?_append, Worker.job?]

theorem current_arrival (s : System) : s.arrival.current = s.current := rfl

theorem current_waiterStep (s : System) (i : Nat) : (s.waiterStep i).current = s.current := rfl

theorem current_workerStep {s : System} {k : Nat} {w : Worker} (h : s.workers = crew k (some w))
    (now : Instant) :
    (s.workerStep k now).current = (w.step now s.queue).2.bind Worker.job? := by
  have hAt : s.workers[k]? = some w := by rw [h, crew_active]
  simp only [System.workerStep, hAt]
  rcases w.step now s.queue with ⟨q, _ | w'⟩
  · have hLeft : s.workers.eraseIdx k = crew k none := by
      simp [h, crew, List.eraseIdx_append_of_length_le]
    exact current_of_crew hLeft
  · have hStays : s.workers.set k w' = crew k (some w') := by rw [h, set_crew]
    exact current_of_crew hStays

namespace History

variable {h : History} {k : Nat} {active : Option Worker}

theorem begun_workerStep (hCrew : h.system.workers = crew k active) (i : Nat) (now : Instant) :
    (h.act (.workerStep i now)).begun = h.begun ++ h.system.starts (.workerStep i now) := by
  have hNobody (hAt : h.system.workers[i]? = none) :
      (h.act (.workerStep i now)).begun = h.begun ++ h.system.starts (.workerStep i now) := by
    simp [begun, act, outcomes, System.starts, System.act, System.workerStep, hAt]
  rcases Nat.lt_trichotomy i k with hi | rfl | hi
  · have hAt : h.system.workers[i]? = some .leaving := by rw [hCrew, crew_leaving active hi]
    have hCurrent : (h.system.workerStep i now).current = h.system.current := by
      rw [current_of_crew hCrew]
      apply current_of_crew (k := k - 1)
      simp only [System.workerStep, hAt, Worker.step]
      rw [hCrew, eraseIdx_crew active hi]
    simp [begun, act, outcomes, System.starts, System.act, hCurrent, hAt, Worker.records,
      Worker.takes]
  · cases active with
    | none => exact hNobody (by rw [hCrew, crew_active])
    | some w =>
      have hAt : h.system.workers[i]? = some w := by rw [hCrew, crew_active]
      have hHand : h.system.current = w.job? := current_of_crew hCrew
      simp [begun, act, outcomes, System.starts, System.act, hAt, current_workerStep hCrew, hHand,
        ← step_takes w now]
  · exact hNobody (by rw [hCrew, crew_beyond active hi])

/-- The jobs that an action starts are added to those that were begun. -/
theorem begun_act (hCrew : h.system.workers = crew k active) (a : Action) :
    (h.act a).begun = h.begun ++ h.system.starts a := by
  cases a with
  | workerStep i now => exact begun_workerStep hCrew i now
  | callEnd i behaviour =>
    simp [begun, act, outcomes, System.starts, System.act, current_callEnd]
  | submit job => simp [begun, act, outcomes, System.starts, System.act, current_submit]
  | arrival => simp [begun, act, outcomes, System.starts, System.act, current_arrival]
  | waiterStep i => simp [begun, act, outcomes, System.starts, System.act, current_waiterStep]

end History

/-! ## Workers that are started late -/

namespace Dispatch

theorem crew_of_append_free {workers : List Worker} {starting k : Nat} {active : Option Worker}
    (h : workers ++ List.replicate starting .free = crew k active) :
    ∃ k' active', workers = crew k' active' := by
  cases starting with
  | zero => exact ⟨k, active, by simpa using h⟩
  | succ n =>
    rw [List.replicate_succ', ← List.append_assoc, crew] at h
    cases active with
    | none =>
      -- none of the workers that are leaving is free
      have hMem : Worker.free ∈ List.replicate k Worker.leaving := by
        rw [Option.toList_none, List.append_nil] at h
        rw [← h]
        exact List.mem_append_right _ (List.mem_singleton_self _)
      cases (List.mem_replicate.1 hMem).2
    | some w =>
      obtain ⟨hBefore, -⟩ := List.append_inj' h rfl
      obtain ⟨hLength, hWorkers, -⟩ := List.append_eq_replicate_iff.1 hBefore
      exact ⟨workers.length, none, by rw [crew, Option.toList_none, List.append_nil, ← hWorkers]⟩

/-- Without those that are about to be started, at most one worker stays as well. -/
theorem exists_crew (limit : Nat) (actions : List DispatchAction) :
    ∃ k active, (run limit actions).history.system.workers = crew k active := by
  obtain ⟨leaving, active, hs, -⟩ := settled_scene limit actions
  exact crew_of_append_free hs.workers

/-- The jobs that are started by an action. -/
def starts (d : Dispatch) : DispatchAction → List Job
  | .other a => d.history.system.starts a
  | _ => []

/-- The jobs that are started by actions, one after the other. -/
def startsFrom : Dispatch → List DispatchAction → List Job
  | _, [] => []
  | d, a :: rest => d.starts a ++ (d.act a).startsFrom rest

/-- The jobs that are started in a run. -/
def started (limit : Nat) (actions : List DispatchAction) : List Job :=
  startsFrom { history := .start limit } actions

theorem startsFrom_append (d : Dispatch) (before after : List DispatchAction) :
    d.startsFrom (before ++ after) =
      d.startsFrom before ++ (before.foldl act d).startsFrom after := by
  induction before generalizing d with
  | nil => rfl
  | cons a before ih => rw [List.cons_append, startsFrom, startsFrom, ih, List.append_assoc,
      List.foldl_cons]

theorem started_append (limit : Nat) (actions : List DispatchAction) (a : DispatchAction) :
    started limit (actions ++ [a]) = started limit actions ++ (run limit actions).starts a := by
  rw [started, startsFrom_append, startsFrom, startsFrom, List.append_nil]
  rfl

theorem begun_start (d : Dispatch) : d.start.history.begun = d.history.begun := by
  unfold start
  split
  · rfl
  · simp [History.begun, System.current, List.findSome?_append, Worker.job?]

/-- **Which jobs were started.** They are those that are finished and the one in hand. -/
theorem started_eq (limit : Nat) (actions : List DispatchAction) :
    started limit actions = (run limit actions).history.begun := by
  induction actions using List.reverseRecOn with
  | nil => rfl
  | append_singleton actions a ih =>
    obtain ⟨k, active, hCrew⟩ := exists_crew limit actions
    rw [started_append, ih, run_append]
    cases a with
    | mark job => exact List.append_nil _
    | start =>
      rw [act, begun_start]
      exact List.append_nil _
    | other a => exact (History.begun_act hCrew a).symm

/-! ## Every run -/

theorem current_settled (d : Dispatch) :
    d.settled.system.current = d.history.system.current := by
  have hNobody : (List.replicate d.starting Worker.free).findSome? Worker.job? = none := by
    simp [List.findSome?_replicate, Worker.job?]
  simp [settled, System.current, List.findSome?_append, hNobody]

/-- The jobs that were begun and those that wait are all that were submitted. -/
theorem submitted_eq (limit : Nat) (actions : List DispatchAction) :
    (run limit actions).history.submitted =
      started limit actions ++ (run limit actions).history.system.queue.waiting := by
  obtain ⟨leaving, active, hs, hOrderly, -⟩ := settled_scene limit actions
  have hCurrent := current_eq hs
  rw [current_settled] at hCurrent
  rw [started_eq, History.begun, hCurrent]
  exact hOrderly.order

/-- The slot shows the job that is being worked on. -/
theorem slot_shown (limit : Nat) (actions : List DispatchAction) :
    (run limit actions).history.system.queue.slot.map RunningJob.item =
      (run limit actions).history.system.current.map QueuedJob.ofJob := by
  obtain ⟨leaving, active, hs, hOrderly, -⟩ := settled_scene limit actions
  rw [← current_settled, current_eq hs]
  exact hOrderly.shown

theorem position_eq (limit : Nat) (actions : List DispatchAction) :
    let s := (run limit actions).history.system
    s.queue.position = (s.current.toList ++ s.queue.waiting).length := by
  intro s
  have hTaken : s.queue.slot.isSome = s.current.isSome := by
    rw [← Option.isSome_map, slot_shown, Option.isSome_map]
  rw [JobQueue.position, hTaken, List.length_append, Nat.add_comm]
  cases s.current <;> rfl

end Dispatch

/-- The job that is submitted by an action. -/
def DispatchAction.submission? : DispatchAction → Option Job
  | .mark job | .other (.submit job) => some job
  | _ => none

namespace Dispatch

theorem submitted_act (d : Dispatch) (a : DispatchAction) :
    (d.act a).history.submitted = d.history.submitted ++ a.submission?.toList := by
  cases a with
  | mark job => rfl
  | start =>
    rw [act, start]
    split <;> exact (List.append_nil _).symm
  | other a => cases a <;> rfl

theorem submitted_append (limit : Nat) (actions more : List DispatchAction) :
    (run limit (actions ++ more)).history.submitted =
      (run limit actions).history.submitted ++ more.filterMap DispatchAction.submission? := by
  induction more using List.reverseRecOn with
  | nil => simp
  | append_singleton more a ih =>
    rw [← List.append_assoc, run_append, submitted_act, ih, List.filterMap_append,
      List.append_assoc]
    cases hSubmission : a.submission? <;> simp [hSubmission]

/-- A job is started by a worker that has nothing in hand, and it is the first one that waits. -/
theorem current_of_starts {limit : Nat} {actions : List DispatchAction} {a : DispatchAction}
    (h : (run limit actions).starts a ≠ []) :
    (run limit actions).history.system.current = none ∧
      (run limit actions).starts a =
        (run limit actions).history.system.queue.waiting.head?.toList := by
  obtain ⟨k, active, hCrew⟩ := exists_crew limit actions
  generalize run limit actions = d at h hCrew ⊢
  cases a with
  | mark job => exact absurd rfl h
  | start => exact absurd rfl h
  | other a =>
    cases a with
    | workerStep i now =>
      simp only [starts, System.starts] at h ⊢
      cases hAt : d.history.system.workers[i]? with
      | none => simp [hAt] at h
      | some w =>
        cases w with
        | free =>
          obtain ⟨-, rfl⟩ := active_of_crew (hCrew ▸ hAt) (by simp)
          exact ⟨current_of_crew hCrew, by simp [Worker.takes]⟩
        | _ => simp [hAt, Worker.takes] at h
    | _ => exact absurd rfl h

/-- A job is started when as many were started as had been submitted before it. -/
theorem starts_eq {limit : Nat} {actions more : List DispatchAction}
    {submission a : DispatchAction} {job : Job} (hJob : submission.submission? = some job)
    (hStarted : (started limit (actions ++ submission :: more)).length =
      (run limit actions).history.submitted.length)
    (hStarts : (run limit (actions ++ submission :: more)).starts a ≠ []) :
    (run limit (actions ++ submission :: more)).starts a = [job] := by
  obtain ⟨-, hFirst⟩ := current_of_starts hStarts
  have hAll := submitted_eq limit (actions ++ submission :: more)
  rw [submitted_append, List.filterMap_cons_some hJob] at hAll
  obtain ⟨-, hWaiting⟩ := List.append_inj hAll hStarted.symm
  rw [hFirst, ← hWaiting]
  rfl

end Dispatch

/-- A submission that is accepted is told the position of the queue that it finds. -/
theorem System.tells_position (s : System) (id : Identifier) (now : Instant) (r : ApiRequest) :
    (s.respondToSubmission id now r).2 = s ∨
      ∃ message, (s.respondToSubmission id now r).1 =
        .ok (Accepted.mk message s.queue.position.toUInt64).toJson := by
  rcases s.respondToSubmission_cases id now r with ⟨name, _, _, -, hEq⟩ | ⟨-, _, hEq⟩
  · exact .inr ⟨_, by rw [hEq]⟩
  · exact .inl (by rw [hEq])

namespace Dispatch

/-- **The position is exact.** The position that is told to a submission is the number of jobs that
were submitted before it and are not finished, which are the one that is being worked on and those
that wait. When as many jobs were started as had been submitted before it, the next one to be
started is its own, and then exactly as many outcomes have been recorded since the submission. -/
theorem run_position (limit : Nat) (actions : List DispatchAction) {submission : DispatchAction}
    {job : Job} (hJob : submission.submission? = some job) :
    let d := run limit actions
    let s := d.history.system
    let position := s.queue.position
    (∀ id now r, (s.respondToSubmission id now r).2 = s ∨
      ∃ message, (s.respondToSubmission id now r).1 =
        .ok (Accepted.mk message position.toUInt64).toJson) ∧
    (∃ ahead, d.history.submitted = d.history.finished.map Prod.fst ++ ahead ∧
      ahead = s.current.toList ++ s.queue.waiting ∧ position = ahead.length) ∧
    ∀ more a,
      let actions' := actions ++ submission :: more
      let d' := run limit actions'
      started limit actions' <+: d'.history.submitted ∧
      ((started limit actions').length = d.history.submitted.length → d'.starts a ≠ [] →
        d'.starts a = [job] ∧
          d'.history.finished.length = d.history.finished.length + position) := by
  intro d s position
  have hPosition := position_eq limit actions
  have hAll := submitted_eq limit actions
  rw [started_eq, History.begun, List.append_assoc] at hAll
  refine ⟨s.tells_position, ⟨_, hAll, rfl, hPosition⟩, fun more a => ?_⟩
  intro actions' d'
  constructor
  · rw [submitted_eq]
    exact List.prefix_append _ _
  · intro hStarted hStarts
    refine ⟨starts_eq hJob hStarted hStarts, ?_⟩
    obtain ⟨hNobody, -⟩ := current_of_starts hStarts
    have hFinished : d'.history.finished.length = (started limit actions').length := by
      rw [started_eq, History.begun, hNobody, Option.toList_none, List.append_nil, List.length_map]
    rw [hFinished, hStarted, hAll, List.length_append, List.length_map, ← hPosition]

/-- A job that is submitted while another one is being run, which breaks down later. -/
theorem run_position_behind_breakdown :
    let first : Job := ⟨⟨1⟩, "login", "7", .null, ⟨0, 0⟩⟩
    let second : Job := ⟨⟨2⟩, "logout", "8", .null, ⟨0, 0⟩⟩
    let step : DispatchAction := .other (.workerStep 0 ⟨0, 0⟩)
    let actions : List DispatchAction := [.mark first, .start, step, step]
    let more : List DispatchAction := [.other (.callEnd 0 fun _ _ => .brokeDown ""), step, step]
    let d := run 5 actions
    let d' := run 5 (actions ++ .mark second :: more)
    (started 5 (actions ++ .mark second :: more)).length = d.history.submitted.length ∧
      d.history.system.queue.position = 1 ∧ d'.starts step = [second] ∧
      d'.history.finished.length = 1 := by
  intro first second step actions more d d'
  have hPosition : d.history.system.queue.position = 1 := by decide +kernel
  have hStarted : (started 5 (actions ++ .mark second :: more)).length =
      d.history.submitted.length := by decide +kernel
  have hStarts : d'.starts step ≠ [] := by
    have hLength : (d'.starts step).length = 1 := by decide +kernel
    exact List.ne_nil_of_length_eq_add_one hLength
  obtain ⟨hNext, hFinished⟩ := ((run_position 5 actions rfl).2.2 more step).2 hStarted hStarts
  refine ⟨hStarted, hPosition, hNext, ?_⟩
  rw [hFinished]
  decide +kernel

end Dispatch
end SessionReplay
