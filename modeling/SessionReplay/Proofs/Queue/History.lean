import SessionReplay.Queue.System
import Mathlib.Data.List.Induction

/-!
# What has happened in a system

A system forgets what it has done. Here every action is noted beside it, so that the order of
submissions, outcomes and stage calls can be spoken of.

* `CallEvent`: a stage call begins or ends.
* `Worker.job?`, `System.current`: the job that is being worked on.
* `History`: a system with its submissions, its outcomes and its stage calls, each in order.
* `History.run`: the history of a run of actions; `run_system` says that noting changes nothing.
-/

namespace SessionReplay

inductive CallEvent where
  | began (job : Job) (call : Call)
  | ended (job : Job) (call : Call)

namespace Worker

/-- The job that a worker has in hand, from the moment it is taken to the record of its outcome. -/
def job? : Worker → Option Job
  | free | leaving => none
  | ready job _ _ | busy job _ _ | complete job _ | aborted job _ | finished job _ => some job

/-- The calls that begin in the next step of a worker. -/
def begins : Worker → List CallEvent
  | ready job _ call => [.began job call]
  | _ => []

/-- The calls that end when the call of a worker does. -/
def ends : Worker → List CallEvent
  | busy job _ call => [.ended job call]
  | _ => []

/-- The outcomes that are recorded in the next step of a worker. -/
def records : Worker → List (Job × Outcome)
  | finished job outcome => [(job, outcome)]
  | _ => []

end Worker

/-- The job that some worker has in hand. -/
def System.current (s : System) : Option Job := s.workers.findSome? Worker.job?

structure History where
  system : System
  submitted : List Job := []
  finished : List (Job × Outcome) := []
  events : List CallEvent := []

namespace History

def start (limit : Nat) : History := { system := .empty limit }

def submissions : Action → List Job
  | .submit job => [job]
  | _ => []

def outcomes (s : System) : Action → List (Job × Outcome)
  | .workerStep i _ => s.workers[i]?.toList.flatMap Worker.records
  | _ => []

def calls (s : System) : Action → List CallEvent
  | .workerStep i _ => s.workers[i]?.toList.flatMap Worker.begins
  | .callEnd i _ => s.workers[i]?.toList.flatMap Worker.ends
  | _ => []

def act (h : History) (a : Action) : History where
  system := h.system.act a
  submitted := h.submitted ++ submissions a
  finished := h.finished ++ outcomes h.system a
  events := h.events ++ calls h.system a

def run (limit : Nat) (actions : List Action) : History := actions.foldl act (start limit)

theorem run_append (limit : Nat) (actions : List Action) (a : Action) :
    run limit (actions ++ [a]) = (run limit actions).act a := by
  simp [run, List.foldl_append]

theorem run_system (limit : Nat) (actions : List Action) :
    (run limit actions).system = actions.foldl System.act (.empty limit) := by
  induction actions using List.reverseRecOn with
  | nil => rfl
  | append_singleton actions a ih =>
    rw [run_append, List.foldl_append, ← ih]
    rfl

theorem run_submitted (limit : Nat) (actions : List Action) :
    (run limit actions).submitted = actions.flatMap submissions := by
  induction actions using List.reverseRecOn with
  | nil => rfl
  | append_singleton actions a ih =>
    rw [run_append, act, ih, List.flatMap_append, List.flatMap_singleton]

/-- What holds at the start and is kept by every action holds after every run. -/
theorem run_induction {limit : Nat} {P : History → Prop} (hStart : P (start limit))
    (hAct : ∀ h a, P h → P (h.act a)) (actions : List Action) : P (run limit actions) := by
  induction actions using List.reverseRecOn with
  | nil => exact hStart
  | append_singleton actions a ih =>
    rw [run_append]
    exact hAct _ a ih

end History
end SessionReplay
