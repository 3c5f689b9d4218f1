import SessionReplay.Queue.Status

/-!
# The job queue

Jobs wait in the order of their submission; one at a time is taken into a slot, run, and recorded
in a history of bounded length. Each function here is one indivisible change of the queue.

* `JobQueue`: the waiting jobs, the slot, the history, and whether someone empties the queue.
* `JobQueue.submit`, `take`, `showStage`, `record`: the changes.
* `JobQueue.status`: what a caller is told.
-/

namespace SessionReplay

structure JobQueue where
  waiting : List Job := []
  slot : Option RunningJob := none
  /-- Whether there is a worker. No second one is started while there is. -/
  draining : Bool := false
  /-- The outcomes that are kept, the oldest first. -/
  history : List Outcome := []
  /-- How many outcomes are kept. -/
  limit : Nat
  deriving Repr

namespace JobQueue

def empty (limit : Nat) : JobQueue := { limit }

/-- The number of jobs that are ahead of a new one. -/
def position (q : JobQueue) : Nat := q.waiting.length + (if q.slot.isSome then 1 else 0)

/-- A job is put at the end, and the queue is marked as having a worker. -/
def submit (q : JobQueue) (j : Job) : JobQueue :=
  { q with waiting := q.waiting ++ [j], draining := true }

/-- The next job comes into the slot. If there is none, the worker leaves. -/
def take (q : JobQueue) (now : Instant) : Option Job × JobQueue :=
  match q.waiting with
  | j :: rest => (some j, { q with waiting := rest, slot := some (RunningJob.start j now) })
  | [] => (none, { q with slot := none, draining := false })

/-- The job in the slot is shown at a stage. -/
def showStage (q : JobQueue) (stage : Stage) : JobQueue :=
  { q with slot := q.slot.map fun r => { r with stage := stage } }

/-- The stage that is shown. -/
def shownStage (q : JobQueue) : Stage := (q.slot.map (·.stage)).getD .queued

/-- The last outcomes, as many as are kept. -/
def keepLast (limit : Nat) (l : List Outcome) : List Outcome := l.drop (l.length - limit)

/-- The slot becomes free and the outcome of its job is kept. -/
def record (q : JobQueue) (o : Outcome) : JobQueue :=
  { q with slot := none, history := keepLast q.limit (q.history ++ [o]) }

@[simp] theorem submit_waiting (q : JobQueue) (j : Job) :
    (q.submit j).waiting = q.waiting ++ [j] := rfl

@[simp] theorem submit_slot (q : JobQueue) (j : Job) : (q.submit j).slot = q.slot := rfl

@[simp] theorem showStage_waiting (q : JobQueue) (stage : Stage) :
    (q.showStage stage).waiting = q.waiting := rfl

@[simp] theorem record_waiting (q : JobQueue) (o : Outcome) :
    (q.record o).waiting = q.waiting := rfl

@[simp] theorem record_slot (q : JobQueue) (o : Outcome) : (q.record o).slot = none := rfl

def status (q : JobQueue) : QueueStatus where
  queueLength := q.waiting.length.toUInt64
  queueItems := q.waiting.map QueuedJob.ofJob
  currentRunning := q.slot
  isProcessing := q.draining
  recent := q.history

end JobQueue
end SessionReplay
