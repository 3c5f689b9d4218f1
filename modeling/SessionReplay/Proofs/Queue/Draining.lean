import SessionReplay.Proofs.Queue.Fifo

/-!
# No job is stranded

A submission that marks the queue starts a worker only afterwards, and anything may happen in
between. Here the two are steps of their own. A worker that is about to be started can do nothing
yet, so that it makes no difference whether it is there already.

* `Dispatch`: a history with the number of workers that are about to be started.
* `Dispatch.settled_run`: every run of dispatches is, with these workers started, a run of actions;
  `Dispatch.run_scene`: what the turns keep holds after every such run.
* `Manned`: without a worker nothing is left to do; `turn_manned` says that every turn keeps it.
* `Dispatch.done_of_unmarked`: where the queue is not marked, all jobs have their outcomes.
* `Dispatch.run_manned`: the queue is marked exactly if there is one worker that has not left, and
  without it every job that was submitted has its outcome.
-/

namespace SessionReplay

/-! ## Submissions that start their worker later -/

structure Dispatch where
  history : History
  /-- How many submissions have marked the queue and not yet started their worker. -/
  starting : Nat := 0

inductive DispatchAction where
  /-- A submission puts its job into the queue and marks it. -/
  | mark (job : Job)
  /-- A submission that marked the queue starts its worker. -/
  | start
  /-- Anything else, and submissions between whose two steps nothing happens. -/
  | other (a : Action)

namespace Dispatch

def mark (d : Dispatch) (job : Job) : Dispatch where
  history :=
    { d.history with
      system := { d.history.system with queue := d.history.system.queue.submit job }
      submitted := d.history.submitted ++ [job] }
  starting := if d.history.system.queue.draining then d.starting else d.starting + 1

def start (d : Dispatch) : Dispatch :=
  match d.starting with
  | 0 => d
  | n + 1 =>
    { history :=
        { d.history with
          system :=
            { d.history.system with workers := d.history.system.workers ++ [.free] } }
      starting := n }

def act (d : Dispatch) : DispatchAction → Dispatch
  | .mark job => d.mark job
  | .start => d.start
  | .other a => { d with history := d.history.act a }

def run (limit : Nat) (actions : List DispatchAction) : Dispatch :=
  actions.foldl act { history := .start limit }

theorem run_append (limit : Nat) (actions : List DispatchAction) (a : DispatchAction) :
    run limit (actions ++ [a]) = (run limit actions).act a := by
  simp [run, List.foldl_append]

/-- Runs without such steps are the runs of a history. -/
theorem run_other (limit : Nat) (actions : List Action) :
    run limit (actions.map .other) = { history := History.run limit actions } := by
  induction actions using List.reverseRecOn with
  | nil => rfl
  | append_singleton actions a ih =>
    rw [List.map_append, List.map_singleton, run_append, ih, History.run_append]
    rfl

/-! ## Workers that are started at once -/

/-- The history in which all workers are started. -/
def settled (d : Dispatch) : History :=
  { d.history with
    system :=
      { d.history.system with
        workers := d.history.system.workers ++ List.replicate d.starting .free } }

theorem settled_mark (d : Dispatch) (job : Job) :
    (d.mark job).settled = d.settled.act (.submit job) := by
  have hWorkers : (d.mark job).settled.system.workers =
      (d.settled.act (.submit job)).system.workers := by
    by_cases hDraining : d.history.system.queue.draining = true
    · simp [mark, settled, History.act, System.act, System.submit, hDraining]
    · simp [mark, settled, History.act, System.act, System.submit, hDraining,
        List.replicate_succ']
  simp only [mark, settled, History.act, System.act, System.submit, History.submissions,
    History.outcomes, History.calls, List.append_nil] at hWorkers ⊢
  rw [hWorkers]

theorem settled_start (d : Dispatch) : d.start.settled = d.settled := by
  unfold start
  split
  · rfl
  · next n hStarting => simp [settled, hStarting, List.replicate_succ]

theorem modify_append_of_lt {α : Type} {f : α → α} {before : List α} {i : Nat}
    (hi : i < before.length) (after : List α) :
    (before ++ after).modify i f = before.modify i f ++ after := by
  apply List.ext_getElem?
  intro j
  rw [List.getElem?_modify, List.getElem?_append, List.getElem?_append, List.length_modify,
    List.getElem?_modify]
  by_cases hj : j < before.length
  · rw [if_pos hj, if_pos hj]
  · have hij : ¬ i = j := by omega
    simp [hj, hij]

/-- Everything but a start is an action of the history in which all workers are started, and an
action of a worker that is not there is none. -/
theorem settled_other (d : Dispatch) (a : Action) :
    (d.act (.other a)).settled = d.settled ∨ (d.act (.other a)).settled = d.settled.act a := by
  cases a with
  | submit job =>
    right
    by_cases hDraining : d.history.system.queue.draining = true
    · simp [act, settled, History.act, System.act, System.submit, hDraining, History.outcomes,
        History.calls]
    · simp [act, settled, History.act, System.act, System.submit, hDraining, History.outcomes,
        History.calls, ← List.replicate_succ, ← List.replicate_succ']
  | workerStep i now =>
    by_cases hi : i < d.history.system.workers.length
    · right
      have hSome : d.history.system.workers[i]? = some d.history.system.workers[i] :=
        List.getElem?_eq_getElem hi
      simp only [act, settled, History.act, System.act, System.workerStep, History.outcomes,
        History.calls, History.submissions, List.getElem?_append_left hi, hSome]
      rcases d.history.system.workers[i].step now d.history.system.queue with ⟨q, _ | w⟩
      · simp [List.eraseIdx_append_of_lt_length hi]
      · simp [List.set_append_left _ _ hi]
    · left
      have hNone : d.history.system.workers[i]? = none := List.getElem?_eq_none (by omega)
      simp [act, settled, History.act, System.act, System.workerStep, History.outcomes,
        History.calls, History.submissions, hNone]
  | callEnd i behaviour =>
    by_cases hi : i < d.history.system.workers.length
    · right
      simp only [act, settled, History.act, System.act, System.callEnd, History.outcomes,
        History.calls, History.submissions, List.getElem?_append_left hi,
        modify_append_of_lt hi]
    · left
      have hNone : d.history.system.workers[i]? = none := List.getElem?_eq_none (by omega)
      have hModify : d.history.system.workers.modify i (Worker.endCall behaviour) =
          d.history.system.workers := modify_eq_self (by simp [hNone])
      simp [act, settled, History.act, System.act, System.callEnd, History.outcomes,
        History.calls, History.submissions, hNone, hModify]
  | arrival => exact .inr rfl
  | waiterStep i => exact .inr rfl

theorem settled_act (d : Dispatch) (a : DispatchAction) :
    (d.act a).settled = d.settled ∨ ∃ b, (d.act a).settled = d.settled.act b := by
  cases a with
  | mark job => exact .inr ⟨_, d.settled_mark job⟩
  | start => exact .inl d.settled_start
  | other a => exact (d.settled_other a).imp_right fun h => ⟨a, h⟩

/-- **Late starts make no difference.** With the workers started that are about to be, a run is one
in which submissions start them at once. -/
theorem settled_run (limit : Nat) (actions : List DispatchAction) :
    ∃ whole, (run limit actions).settled = History.run limit whole := by
  induction actions using List.reverseRecOn with
  | nil => exact ⟨[], rfl⟩
  | append_singleton actions a ih =>
    obtain ⟨whole, hWhole⟩ := ih
    rw [run_append]
    rcases (run limit actions).settled_act a with hSame | ⟨b, hNext⟩
    · exact ⟨whole, hSame.trans hWhole⟩
    · refine ⟨whole ++ [b], ?_⟩
      rw [hNext, hWhole, History.run_append]

/-- What the turns keep holds of the scene in which all workers are started. -/
theorem run_scene {limit : Nat} {P : Scene → Prop} (hStart : P (.start limit))
    (hTurn : ∀ s s', P s → Turn s s' → P s') (actions : List DispatchAction) :
    ∃ leaving active, (run limit actions).settled.system.Staffed leaving active ∧
      P ((run limit actions).settled.scene active) := by
  obtain ⟨whole, hWhole⟩ := settled_run limit actions
  rw [hWhole]
  exact SessionReplay.run_scene hStart hTurn whole

end Dispatch

/-! ## Without a worker -/

/-- Without a worker nobody waits and nobody is shown. -/
def Scene.Manned (s : Scene) : Prop :=
  s.worker = none → s.queue.waiting = [] ∧ s.queue.slot = none

theorem turn_manned {s s' : Scene} (h : s.Manned) (hTurn : Turn s s') : s'.Manned := by
  cases hTurn with
  | rest => exact h
  | leave hWorker hWaiting =>
    intro _
    exact ⟨hWaiting, rfl⟩
  | _ =>
    intro hNone
    cases hNone

/-! ## Every run -/

/-- Whether a worker has yet to find the queue empty. -/
def Worker.isStaying (w : Worker) : Bool := w.staying.isSome

theorem countP_crew {k : Nat} {active : Option Worker} (h : active ≠ some .leaving) :
    (crew k active).countP Worker.isStaying = if active.isSome then 1 else 0 := by
  have hLeaving : (List.replicate k Worker.leaving).countP Worker.isStaying = 0 := by
    simp [List.countP_replicate, Worker.isStaying]
  rw [crew, List.countP_append, hLeaving, Nat.zero_add]
  cases active with
  | none => rfl
  | some w =>
    have hStaying : w.isStaying = true := by
      cases w with
      | leaving => exact absurd rfl h
      | _ => rfl
    simp [hStaying]

namespace Dispatch

/-- The number of workers that have not left, those among them that are about to be started. -/
def workersLeft (d : Dispatch) : Nat :=
  d.starting + d.history.system.workers.countP Worker.isStaying

theorem workersLeft_eq (d : Dispatch) :
    d.workersLeft = d.settled.system.workers.countP Worker.isStaying := by
  have hFree : (List.replicate d.starting Worker.free).countP Worker.isStaying = d.starting := by
    simp [List.countP_replicate, Worker.isStaying]
  rw [settled, List.countP_append, hFree, workersLeft, Nat.add_comm]

/-- Nothing is left to do: no job waits or is in the slot, and all that were submitted have their
outcomes, in the same order. -/
structure Done (d : Dispatch) : Prop where
  waiting : d.history.system.queue.waiting = []
  slot : d.history.system.queue.slot = none
  outcomes : List.Forall₂ (fun job p => p.1 = job ∧ p.2.Of job) d.history.submitted
    d.history.finished

/-- The scenes of settled histories are known, and their queues and jobs are those of the runs. -/
theorem settled_scene (limit : Nat) (actions : List DispatchAction) :
    ∃ leaving active, (run limit actions).settled.system.Staffed leaving active ∧
      Orderly ((run limit actions).settled.scene active) ∧
      ((run limit actions).settled.scene active).Manned :=
  run_scene (P := fun s => Orderly s ∧ s.Manned) ⟨start_orderly limit, fun _ => ⟨rfl, rfl⟩⟩
    (fun _ _ h hTurn => ⟨turn_orderly h.1 hTurn, turn_manned h.2 hTurn⟩) actions

theorem done_of_unmarked {limit : Nat} {actions : List DispatchAction}
    (h : (run limit actions).history.system.queue.draining = false) :
    (run limit actions).Done := by
  obtain ⟨leaving, active, hs, hOrderly, hManned⟩ := settled_scene limit actions
  have hNobody : active = none := by
    cases active with
    | none => rfl
    | some w => exact absurd (hs.draining.symm.trans h) (by simp)
  subst hNobody
  obtain ⟨hWaiting, hSlot⟩ : (run limit actions).history.system.queue.waiting = [] ∧
      (run limit actions).history.system.queue.slot = none := hManned rfl
  have hOrder : (run limit actions).history.submitted =
      (run limit actions).history.finished.map Prod.fst := by
    have hAll : (run limit actions).history.submitted =
        (run limit actions).history.finished.map Prod.fst ++ [] ++
          (run limit actions).history.system.queue.waiting := hOrderly.order
    simpa [hWaiting] using hAll
  refine ⟨hWaiting, hSlot, ?_⟩
  rw [hOrder, List.forall₂_map_left_iff, List.forall₂_same]
  intro p hp
  exact ⟨rfl, hOrderly.outcomes p hp⟩

/-- **No job is stranded.** In every run, in which submissions may be interrupted between marking
the queue and starting a worker, there is never a second worker that has not left, and the queue is
marked exactly if there is one. While a job waits or is in the slot, the queue is marked. If a
status shows a queue without a worker, it shows no job, and all jobs that were submitted have their
outcomes, in the same order. -/
theorem run_manned (limit : Nat) :
    (∀ actions, run limit (actions.map .other) = { history := History.run limit actions }) ∧
    ∀ actions,
      let d := run limit actions
      let q := d.history.system.queue
      d.workersLeft ≤ 1 ∧
      (q.draining = true ↔ d.workersLeft = 1) ∧
      (q.draining = true ∨ q.waiting = [] ∧ q.slot = none) ∧
      (q.status.isProcessing = true ∨
        q.status.queueLength = 0 ∧ q.status.queueItems = [] ∧ q.status.currentRunning = none ∧
          List.Forall₂ (fun job p => p.1 = job ∧ p.2.Of job) d.history.submitted
            d.history.finished) := by
  refine ⟨run_other limit, fun actions => ?_⟩
  intro d q
  obtain ⟨leaving, active, hs, -, -⟩ := settled_scene limit actions
  have hDraining : q.draining = active.isSome := hs.draining
  have hLeft : d.workersLeft = if active.isSome then 1 else 0 := by
    rw [workersLeft_eq, hs.workers, countP_crew hs.stays]
  cases hActive : active with
  | some w =>
    have hMarked : q.draining = true := by rw [hDraining, hActive, Option.isSome_some]
    have hOne : d.workersLeft = 1 := by rw [hLeft, hActive, Option.isSome_some, if_pos rfl]
    exact ⟨by omega, iff_of_true hMarked hOne, .inl hMarked, .inl hMarked⟩
  | none =>
    have hMarked : q.draining = false := by rw [hDraining, hActive, Option.isSome_none]
    have hZero : d.workersLeft = 0 := by simp [hLeft, hActive]
    have hUnmarked : ¬ q.draining = true := by simp [hMarked]
    obtain ⟨hWaiting, hSlot, hOutcomes⟩ := done_of_unmarked hMarked
    refine ⟨by omega, iff_of_false hUnmarked (by omega), .inr ⟨hWaiting, hSlot⟩, .inr ?_⟩
    exact ⟨by simp [JobQueue.status, q, d, hWaiting], by simp [JobQueue.status, q, d, hWaiting],
      hSlot, hOutcomes⟩

end Dispatch
end SessionReplay
