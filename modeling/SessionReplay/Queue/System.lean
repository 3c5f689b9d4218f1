import SessionReplay.Queue.Basic
import SessionReplay.Queue.Call

/-!
# Workers and waiters

The queue with those who act on it. A worker takes one job after the other and runs it through
its stage calls; between two of its steps anything may happen elsewhere. A waiter waits until
there is no worker.

* `Worker`: what a worker is about to do; `Worker.step`, `Worker.endCall`.
* `Waiter`: how far a waiter has come; `Waiter.step`.
* `System`: the queue, its workers and its waiters.
* `Action`, `System.act`: everything that can happen, one indivisible step at a time.
-/

namespace SessionReplay

/-! ## Workers -/

inductive Worker where
  /-- About to take the next job. -/
  | free
  /-- About to show the stage of a call. -/
  | ready (job : Job) (outcome : Outcome) (call : Call)
  /-- In a call. -/
  | busy (job : Job) (outcome : Outcome) (call : Call)
  /-- Behind the last call of a job. -/
  | complete (job : Job) (outcome : Outcome)
  /-- Behind a call that broke down, which takes all that was recorded of the job with it. -/
  | aborted (job : Job) (report : String)
  /-- About to record the outcome of a job. -/
  | finished (job : Job) (outcome : Outcome)
  /-- About to tell the waiters, with nothing left to do. -/
  | leaving

namespace Worker

/-- The outcome of a job that was aborted at a stage. -/
def abortedOutcome (job : Job) (stage : Stage) (report : String) (now : Instant) : Outcome :=
  ((Outcome.start job now).record stage (.failure ("Job aborted: " ++ report))).finish now

/-- The next step of a worker, which may be gone afterwards. A worker in a call makes none. -/
def step (now : Instant) (q : JobQueue) : Worker → JobQueue × Option Worker
  | free =>
    match q.take now with
    | (some job, q) => (q, some (ready job (Outcome.start job now) .persist))
    | (none, q) => (q, some leaving)
  | ready job o call => (q.showStage call.stage, some (busy job o call))
  | busy job o call => (q, some (busy job o call))
  | complete job o => (q.showStage .done, some (finished job (o.finish now)))
  | aborted job report => (q, some (finished job (abortedOutcome job q.shownStage report now)))
  | finished _ o => (q.record o, some free)
  | leaving => (q, none)

/-- The end of the call that a worker is in. -/
def endCall (behaviour : Behaviour) : Worker → Worker
  | busy job o call =>
    match behaviour job call with
    | .brokeDown report => aborted job report
    | .returned result =>
      match call.proceed o result with
      | (o, some next) => ready job o next
      | (o, none) => complete job o
  | w => w

end Worker

/-! ## Waiters -/

/-- A waiter listens before it looks at the queue, and hears what is told from then on. -/
inductive Waiter where
  | arriving
  | listening (told : Bool)
  | sleeping (told : Bool)
  | gone
  deriving DecidableEq, Repr

namespace Waiter

def step (q : JobQueue) : Waiter → Waiter
  | arriving => listening false
  | listening told => if q.draining then sleeping told else gone
  | sleeping true => arriving
  | sleeping false => sleeping false
  | gone => gone

/-- The waiter is told that a worker left. -/
def tell : Waiter → Waiter
  | listening _ => listening true
  | sleeping _ => sleeping true
  | w => w

end Waiter

/-! ## All of them together -/

structure System where
  queue : JobQueue
  workers : List Worker := []
  waiters : List Waiter := []

inductive Action where
  | submit (job : Job)
  | workerStep (worker : Nat) (now : Instant)
  | callEnd (worker : Nat) (behaviour : Behaviour)
  | arrival
  | waiterStep (waiter : Nat)

namespace System

def empty (limit : Nat) : System := ⟨.empty limit, [], []⟩

/-- A submission to a queue without a worker starts one. -/
def submit (s : System) (j : Job) : System :=
  { s with
    queue := s.queue.submit j
    workers := if s.queue.draining then s.workers else s.workers ++ [.free] }

def workerStep (s : System) (i : Nat) (now : Instant) : System :=
  match s.workers[i]? with
  | none => s
  | some w =>
    match w.step now s.queue with
    | (q, some w) => { s with queue := q, workers := s.workers.set i w }
    | (q, none) =>
      { queue := q, workers := s.workers.eraseIdx i, waiters := s.waiters.map Waiter.tell }

def callEnd (s : System) (i : Nat) (behaviour : Behaviour) : System :=
  { s with workers := s.workers.modify i (Worker.endCall behaviour) }

def arrival (s : System) : System := { s with waiters := s.waiters ++ [.arriving] }

def waiterStep (s : System) (i : Nat) : System :=
  { s with waiters := s.waiters.modify i (Waiter.step s.queue) }

def act (s : System) : Action → System
  | .submit j => s.submit j
  | .workerStep i now => s.workerStep i now
  | .callEnd i behaviour => s.callEnd i behaviour
  | .arrival => s.arrival
  | .waiterStep i => s.waiterStep i

end System
end SessionReplay
