import SessionReplay.Queue.System
import SessionReplay.Text.Quoted

/-!
# Rehearsals

A queue over stages that follow a plan. Every call is noted when it begins, and it ends when it
gets a permit; so a rehearsal can be stopped between any two calls.

* `Plan`, `Plan.ending`: how a call ends.
* `Rehearsal`: the system, the plans, the permits that are left and the calls that were noted.
* `Rehearsal.settle`: the worker goes on for as long as it can.
* `Rehearsal.tick`, `Rehearsal.waitIdle`.
-/

namespace SessionReplay

inductive Plan where
  /-- The stage breaks down with these words. -/
  | breakDown (text : String)
  | fail (trouble : Trouble)
  | givePath (path : String)
  | giveResult (result : StageResult)
  deriving DecidableEq, Repr

/-- The report on a task that broke down. -/
def breakdownReport (task text : String) : String :=
  "task " ++ task ++ " panicked with message " ++ Text.quoted text

namespace Plan

def defaultResult : StageResult := .success "done"

def endPath (task fallback : String) : Option Plan → Ending String
  | some (breakDown text) => .brokeDown (breakdownReport task text)
  | some (fail t) => .returned (.error t)
  | some (givePath path) => .returned (.ok path)
  | some (giveResult _) | none => .returned (.ok fallback)

def endResult (task : String) : Option Plan → Ending StageResult
  | some (breakDown text) => .brokeDown (breakdownReport task text)
  | some (fail t) => .returned (.error t)
  | some (giveResult result) => .returned (.ok result)
  | some (givePath _) | none => .returned (.ok defaultResult)

/-- How the calls end if there is a plan for each test and stage, or none. -/
def behaviour (task : String) (plans : String → Stage → Option Plan) : Behaviour := fun job call =>
  let plan := plans job.testName call.stage
  match call with
  | .persist => endPath task (job.stem ++ ".json") plan
  | .compile _ => endPath task (job.stem ++ ".cy.js") plan
  | .execute _ => endResult task plan
  | .report => endResult task plan

end Plan

structure Rehearsal where
  system : System
  behaviour : Behaviour
  permits : Nat := 0
  /-- The calls that began, in order. -/
  calls : List (Job × Call) := []

namespace Rehearsal

/-- The calls that a worker is in. -/
def begun : Option Worker → List (Job × Call)
  | some (.busy job _ call) => [(job, call)]
  | _ => []

/-- One step of the worker, if it can make one at this time. -/
def next (time : Instant) (r : Rehearsal) : Option Rehearsal :=
  match r.system.workers.head? with
  | none => none
  | some (.busy ..) =>
    match r.permits with
    | 0 => none
    | n + 1 => some { r with system := r.system.callEnd 0 r.behaviour, permits := n }
  | some _ =>
    let s := r.system.workerStep 0 time
    some { r with system := s, calls := r.calls ++ begun s.workers.head? }

def goOn (time : Instant) : Nat → Rehearsal → Rehearsal
  | 0, r => r
  | n + 1, r =>
    match r.next time with
    | none => r
    | some r => goOn time n r

/-- More steps than a worker can make between two calls. -/
def stepsBetweenCalls : Nat := 8

def settle (time : Instant) (r : Rehearsal) : Rehearsal :=
  goOn time (stepsBetweenCalls * (r.permits + 1)) r

/-- One more permit. -/
def tick (time : Instant) (r : Rehearsal) : Rehearsal :=
  { r with permits := r.permits + 1 }.settle time

/-- More permits than the jobs that are left can use. -/
def enoughPermits (r : Rehearsal) : Nat := 4 * (r.system.queue.waiting.length + 1)

/-- As many permits as it takes to empty the queue, of which none are left. -/
def waitIdle (time : Instant) (r : Rehearsal) : Rehearsal :=
  { { r with permits := r.permits + r.enoughPermits }.settle time with permits := 0 }

end Rehearsal
end SessionReplay
