import SessionReplay.FileStem
import SessionReplay.Identifier
import SessionReplay.Json.Basic
import SessionReplay.Time.Instant

/-!
# Jobs

A job takes one recording through the stages of the pipeline, and its outcome tells what became
of each stage.

* `Stage`: where a job is.
* `Job`, `Job.stem`.
* `Outcome`: the results of the stages in order; `Outcome.failedStages`, `Outcome.ran`.
-/

namespace SessionReplay

inductive Stage where
  | queued
  | persisting
  | compiling
  | executing
  | reporting
  | done
  deriving DecidableEq, Repr, Inhabited

namespace Stage

def all : List Stage := [queued, persisting, compiling, executing, reporting, done]

def name : Stage → String
  | queued => "Queued"
  | persisting => "Persisting"
  | compiling => "Compiling"
  | executing => "Executing"
  | reporting => "Reporting"
  | done => "Done"

end Stage

/-- A request to convert, run and report one recording, which is kept as it was given. -/
structure Job where
  id : Identifier
  testName : String
  runId : String
  recording : Json
  submittedAt : Instant
  deriving Repr

/-- The stem shared by the files of the job. -/
def Job.stem (j : Job) : String := fileStem j.testName

/-- What a stage tells about itself. -/
structure StageResult where
  ok : Bool
  message : String
  exitCode : Option Int32 := none
  deriving DecidableEq, Repr

namespace StageResult

def success (message : String) : StageResult := ⟨true, message, none⟩

def failure (message : String) : StageResult := ⟨false, message, none⟩

def withExitCode (r : StageResult) (code : Option Int32) : StageResult :=
  { r with exitCode := code }

end StageResult

structure StageReport where
  stage : Stage
  result : StageResult
  deriving DecidableEq, Repr

structure Outcome where
  jobId : Identifier
  testName : String
  runId : String
  startedAt : Instant
  finishedAt : Option Instant
  stages : List StageReport
  deriving DecidableEq, Repr

namespace Outcome

/-- The outcome of a job that starts now. -/
def start (j : Job) (now : Instant) : Outcome := ⟨j.id, j.testName, j.runId, now, none, []⟩

def record (o : Outcome) (stage : Stage) (result : StageResult) : Outcome :=
  { o with stages := o.stages ++ [⟨stage, result⟩] }

def finish (o : Outcome) (now : Instant) : Outcome := { o with finishedAt := some now }

/-- The stages that did not end well, in the order in which they were recorded. -/
def failedStages (o : Outcome) : List Stage :=
  (o.stages.filter fun r => !r.result.ok).map (·.stage)

/-- Whether a result of the stage was recorded. -/
def ran (o : Outcome) (stage : Stage) : Bool := o.stages.any fun r => r.stage == stage

end Outcome
end SessionReplay
