import SessionReplay.Json.Record

/-!
# Test reports

The outcome of one test case, as it is published.

* `TestReport`: `toJson`, `decode`, `isFailed`.
-/

namespace SessionReplay

open Json

structure TestReport where
  testName : String
  fullTitle : String
  status : String
  durationMs : UInt64
  runTime : String
  fileName : String
  suiteTitle : String
  errorMessage : String
  screenshot : String
  screenshotMissing : Bool
  runId : String
  deriving DecidableEq, Repr

namespace TestReport

def isFailed (r : TestReport) : Bool := r.status == "failed"

def toJson (r : TestReport) : Json :=
  .object [("TestName", .string r.testName), ("FullTitle", .string r.fullTitle),
    ("Status", .string r.status), ("DurationMs", .ofWord r.durationMs),
    ("RunTime", .string r.runTime), ("FileName", .string r.fileName),
    ("SuiteTitle", .string r.suiteTitle), ("ErrorMessage", .string r.errorMessage),
    ("ScreenshotBase64", .string r.screenshot), ("ScreenshotMissing", .bool r.screenshotMissing),
    ("TestRunId", .string r.runId)]

def decode : Node → Except Fault TestReport :=
  Fields.decode "TestReport"
    (TestReport.mk <$> .required "TestName" Node.asString <*> .required "FullTitle" Node.asString
      <*> .required "Status" Node.asString <*> .required "DurationMs" (Node.asWord "u64")
      <*> .required "RunTime" Node.asString <*> .required "FileName" Node.asString
      <*> .required "SuiteTitle" Node.asString <*> .required "ErrorMessage" Node.asString
      <*> .required "ScreenshotBase64" Node.asString
      <*> .required "ScreenshotMissing" Node.asBool <*> .required "TestRunId" Node.asString)

end TestReport
end SessionReplay
