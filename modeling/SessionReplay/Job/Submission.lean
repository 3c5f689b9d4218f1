import SessionReplay.Job.Wire

/-!
# Submissions

A request to queue a recording, with a name for the test and the run that its results belong to.

* `Submission`: every part may be missing when it is read.
* `Submission.toJob?`: the job, if nothing is missing.
* `Accepted`: the answer, with the number of jobs ahead.
-/

namespace SessionReplay

open Json

structure Submission where
  testName : Option String := none
  recording : Option Json := none
  runId : Option Json := none
  deriving Repr

namespace Submission

def ofParts (testName : String) (recording : Json) (runId : String) : Submission :=
  ⟨some testName, some recording, some (.string runId)⟩

def toJson (s : Submission) : Json :=
  .object <|
    Step.member "TestName" .string s.testName
    ++ Step.member "Recording" id s.recording
    ++ Step.member "TestRunId" id s.runId

def decode : Node → Except Fault Submission :=
  Fields.decode "SubmitTest"
    (Submission.mk <$> .optional "TestName" Node.asString <*> .optional "Recording" Node.toJson
      <*> .optional "TestRunId" Node.toJson)

/-- A name that is not empty. -/
def name? (s : Submission) : Option String := s.testName.filter fun name => !name.isEmpty

/-- A recording that is not `null`. -/
def recording? (s : Submission) : Option Json := s.recording.filter fun v => !v.isNull

/-- A run identifier: a text that is not empty, or the text of a number. -/
def runId? (s : Submission) : Option String :=
  match s.runId with
  | some (.string id) => if id.isEmpty then none else some id
  | some (.number n) => some n.text
  | _ => none

/-- What a submitter is told where a part is missing. -/
def missingParts : String := "Missing TestName, Recording or TestRunId"

def toJob? (s : Submission) (id : Identifier) (now : Instant) : Option Job := do
  let testName ← s.name?
  let recording ← s.recording?
  let runId ← s.runId?
  some ⟨id, testName, runId, recording, now⟩

end Submission

/-- The answer to a submission that was queued. -/
structure Accepted where
  message : String
  position : UInt64
  deriving DecidableEq, Repr

namespace Accepted

def toJson (a : Accepted) : Json :=
  .object [("message", .string a.message), ("position", .ofWord a.position)]

def decode : Node → Except Fault Accepted :=
  Fields.decode "SubmitAccepted"
    (Accepted.mk <$> .required "message" Node.asString
      <*> .required "position" (Node.asWord "usize"))

end Accepted
end SessionReplay
