import SessionReplay.Pipeline.Report
import SessionReplay.Queue.System

/-!
# Jobs on a pipeline

* `Pipeline.call`: a stage call on a host.
* `Pipeline.drain`: a system whose worker makes its calls on a pipeline until nothing is left to
  do.
-/

namespace SessionReplay.Pipeline

/-- A change of the disk as a change of the host. -/
def onDisk {α : Type} (change : Disk → α × Disk) (h : Host) : α × Host :=
  let (a, d) := change h.disk
  (a, { h with disk := d })

def call (p : Pipeline) (programs : Programs) (j : Job) (h : Host) :
    (c : Call) → Except Trouble c.Value × Host
  | .persist => onDisk (p.persist j) h
  | .compile recording => p.compile recording h
  | .execute script => onDisk (p.execute programs j script) h
  | .report => p.report programs j h

/-- How stage calls end on a host. -/
def behaviour (p : Pipeline) (programs : Programs) (h : Host) : Behaviour := fun j c =>
  .returned (p.call programs j h c).1

/-- One step of the first worker; a call is made when its turn comes. -/
def workerStep (p : Pipeline) (programs : Programs) (s : System) (h : Host) : System × Host :=
  match s.workers.head? with
  | some (.busy job _ c) =>
    (s.callEnd 0 (p.behaviour programs h), (p.call programs job h c).2)
  | _ =>
    let (now, h) := h.now
    (s.workerStep 0 now, h)

def drainFrom (p : Pipeline) (programs : Programs) : Nat → System → Host → System × Host
  | 0, s, h => (s, h)
  | n + 1, s, h =>
    if s.workers.isEmpty then (s, h)
    else
      let (s, h) := p.workerStep programs s h
      drainFrom p programs n s h

/-- More steps than a worker can make with one job. -/
def stepsOfJob : Nat := 16

def drain (p : Pipeline) (programs : Programs) (s : System) (h : Host) : System × Host :=
  p.drainFrom programs (stepsOfJob * (s.queue.waiting.length + 2)) s h

end SessionReplay.Pipeline
