import SessionReplay.Job.Basic
import SessionReplay.Json.Record
import SessionReplay.Recording.Step

/-!
# Jobs as documents

How jobs and their outcomes are written and read.

* `Stage`, `StageResult`, `StageReport`, `Job`, `Outcome`: `toJson` and `decode`.
* `Json.Node.asInstant`, `Json.Node.asIdentifier`.
-/

namespace SessionReplay

open Json

namespace Json.Node

def asInstant : Node → Except Fault Instant :=
  asParsed "an RFC 3339 formatted date and time string" fun s =>
    (Instant.read s).mapError Instant.Problem.message

def asIdentifier : Node → Except Fault Identifier :=
  asParsed "a formatted UUID string" fun s =>
    (Identifier.read s).mapError fun p => "UUID parsing failed: " ++ p.message

end Json.Node

namespace Stage

def toJson (s : Stage) : Json := .string s.name

def decode : Node → Except Fault Stage := Node.asName (all.map fun s => (s.name, s))

end Stage

namespace StageResult

def members (r : StageResult) : List (String × Json) :=
  [("ok", .bool r.ok), ("message", .string r.message)]
    ++ Step.member "exitCode" Json.ofInt32 r.exitCode

def toJson (r : StageResult) : Json := .object r.members

def fields : Fields StageResult :=
  StageResult.mk <$> .required "ok" Node.asBool <*> .required "message" Node.asString
    <*> .optional "exitCode" Node.asInt32

def decode : Node → Except Fault StageResult := fields.decode "StageResult"

end StageResult

namespace StageReport

def toJson (r : StageReport) : Json := .object (("stage", r.stage.toJson) :: r.result.members)

def decode (node : Node) : Except Fault StageReport :=
  (fun (stage, result) => ⟨stage, result⟩) <$>
    Fields.decodeWith "StageReport" (.required "stage" Stage.decode) StageResult.fields node

end StageReport

namespace Job

def toJson (j : Job) : Json :=
  .object [("id", .string j.id.text), ("testName", .string j.testName),
    ("runId", .string j.runId), ("recording", j.recording),
    ("submittedAt", .string j.submittedAt.text)]

def decode : Node → Except Fault Job :=
  Fields.decode "Job"
    (Job.mk <$> .required "id" Node.asIdentifier <*> .required "testName" Node.asString
      <*> .required "runId" Node.asString <*> .required "recording" Node.toJson
      <*> .required "submittedAt" Node.asInstant)

end Job

namespace Outcome

def toJson (o : Outcome) : Json :=
  .object [("jobId", .string o.jobId.text), ("testName", .string o.testName),
    ("runId", .string o.runId), ("startedAt", .string o.startedAt.text),
    ("finishedAt", Json.ofOption (fun t => .string t.text) o.finishedAt),
    ("stages", .array (o.stages.map StageReport.toJson))]

def decode : Node → Except Fault Outcome :=
  Fields.decode "JobOutcome"
    (Outcome.mk <$> .required "jobId" Node.asIdentifier <*> .required "testName" Node.asString
      <*> .required "runId" Node.asString <*> .required "startedAt" Node.asInstant
      <*> .nullable "finishedAt" Node.asInstant
      <*> .required "stages" (Node.asList StageReport.decode))

end Outcome
end SessionReplay
