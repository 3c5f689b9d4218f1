import SessionReplay.Job.Basic
import SessionReplay.Trouble

/-!
# Stage calls

A job is run by calls of the four stages of a pipeline. The recording is stored and compiled, each
of which gives a path for the next stage or ends the job; then the script is executed and the
results are reported, whatever came of the execution.

* `Call`: a stage with the path that it works on.
* `Call.Value`: what a stage gives.
* `Call.proceed`: the outcome after a call, and the next call.
-/

namespace SessionReplay

inductive Call where
  | persist
  | compile (recording : String)
  | execute (script : String)
  | report
  deriving DecidableEq, Repr

/-- What becomes of a call: a value, a failure, or a breakdown of the stage, of which there is a
report. -/
inductive Ending (α : Type) where
  | returned (result : Except Trouble α)
  | brokeDown (report : String)

namespace Call

def stage : Call → Stage
  | persist => .persisting
  | compile _ => .compiling
  | execute _ => .executing
  | report => .reporting

/-- A path from the stages that make a file, a result from the others. -/
abbrev Value : Call → Type
  | persist | compile _ => String
  | execute _ | report => StageResult

/-- The result of a stage that failed to give one. -/
def resultOf : Except Trouble StageResult → StageResult
  | .ok r => r
  | .error t => .failure t.line

/-- The outcome of a job after a call, and the call that comes next, if any. -/
def proceed (o : Outcome) : (c : Call) → Except Trouble c.Value → Outcome × Option Call
  | persist, .ok path => (o.record .persisting (.success ("Saved " ++ path)), some (compile path))
  | persist, .error t => (o.record .persisting (.failure t.line), none)
  | compile _, .ok path =>
    (o.record .compiling (.success ("Compiled " ++ path)), some (execute path))
  | compile _, .error t => (o.record .compiling (.failure t.line), none)
  | execute _, result => (o.record .executing (resultOf result), some report)
  | report, result => (o.record .reporting (resultOf result), none)

end Call

/-- How the stages of a pipeline behave at a moment. -/
abbrev Behaviour := Job → (c : Call) → Ending c.Value

end SessionReplay
