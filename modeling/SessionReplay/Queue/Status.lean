import SessionReplay.Job.Wire

/-!
# The state of the queue as it is shown

* `QueuedJob`: a waiting job.
* `RunningJob`: the job that is being run, and its stage.
* `QueueStatus`: all of it, with the latest outcomes.
* `Health`: the answer of a server that is up.
-/

namespace SessionReplay

open Json

structure QueuedJob where
  testName : String
  runId : String
  deriving DecidableEq, Repr

namespace QueuedJob

def ofJob (j : Job) : QueuedJob := ⟨j.testName, j.runId⟩

def toJson (q : QueuedJob) : Json :=
  .object [("TestName", .string q.testName), ("TestRunId", .string q.runId)]

def decode : Node → Except Fault QueuedJob :=
  Fields.decode "QueueItem"
    (QueuedJob.mk <$> .required "TestName" Node.asString <*> .required "TestRunId" Node.asString)

end QueuedJob

structure RunningJob where
  testName : String
  runId : String
  stage : Stage
  startedAt : Instant
  deriving DecidableEq, Repr

namespace RunningJob

/-- A job that was taken out of the queue now. -/
def start (j : Job) (now : Instant) : RunningJob := ⟨j.testName, j.runId, .queued, now⟩

def toJson (r : RunningJob) : Json :=
  .object [("TestName", .string r.testName), ("TestRunId", .string r.runId),
    ("stage", r.stage.toJson), ("startedAt", .string r.startedAt.text)]

def decode : Node → Except Fault RunningJob :=
  Fields.decode "RunningJob"
    (RunningJob.mk <$> .required "TestName" Node.asString <*> .required "TestRunId" Node.asString
      <*> .required "stage" Stage.decode <*> .required "startedAt" Node.asInstant)

end RunningJob

structure QueueStatus where
  queueLength : UInt64
  queueItems : List QueuedJob
  currentRunning : Option RunningJob
  isProcessing : Bool
  recent : List Outcome
  deriving DecidableEq, Repr

namespace QueueStatus

def toJson (q : QueueStatus) : Json :=
  .object [("queueLength", .ofWord q.queueLength),
    ("queueItems", .array (q.queueItems.map QueuedJob.toJson)),
    ("currentRunning", Json.ofOption RunningJob.toJson q.currentRunning),
    ("isProcessing", .bool q.isProcessing),
    ("recent", .array (q.recent.map Outcome.toJson))]

def decode : Node → Except Fault QueueStatus :=
  Fields.decode "QueueStatus"
    (QueueStatus.mk <$> .required "queueLength" (Node.asWord "usize")
      <*> .required "queueItems" (Node.asList QueuedJob.decode)
      <*> .nullable "currentRunning" RunningJob.decode
      <*> .required "isProcessing" Node.asBool
      <*> .withDefault "recent" (Node.asList Outcome.decode) [])

end QueueStatus

structure Health where
  status : String
  deriving DecidableEq, Repr

namespace Health

def up : Health := ⟨"ok"⟩

def toJson (h : Health) : Json := .object [("status", .string h.status)]

def decode : Node → Except Fault Health :=
  Fields.decode "HealthStatus" (Health.mk <$> .required "status" Node.asString)

end Health
end SessionReplay
