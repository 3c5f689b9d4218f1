import SessionReplay.Report.Basic
import SessionReplay.Report.Results
import SessionReplay.Report.Screenshot

/-!
# Reports from results

Every test of every suite of every test file becomes a report; a failed one gets a screenshot if
there is one.

* `TestCase.status`, `TestCase.report`: the report of one test.
* `TestReport.withScreenshot`.
* `RunResults.reports`: all reports in the order of the document.
-/

namespace SessionReplay

/-- The state of a test; without one it passed if it is marked so. -/
def TestCase.status (t : TestCase) : String :=
  t.state.getD (if t.pass.getD false then "passed" else "failed")

/-- What the reports of a run have in common, and those of a suite. -/
structure ReportContext where
  runId : String
  runTime : String
  file : String
  suiteTitle : String

/-- What stands for a name that is missing. -/
def unknownName : String := "unknown"

def TestCase.report (t : TestCase) (c : ReportContext) : TestReport where
  testName := t.title.getD unknownName
  fullTitle := t.fullTitle.getD (t.title.getD unknownName)
  status := t.status
  durationMs := t.duration.getD 0
  runTime := c.runTime
  fileName := c.file
  suiteTitle := c.suiteTitle
  errorMessage := t.failure.join.getD ""
  screenshot := ""
  screenshotMissing := true
  runId := c.runId

/-- The report with the screenshot of its file, if it can be read. -/
def TestReport.withScreenshot (d : Disk) (root : String) (r : TestReport) : TestReport :=
  match (Screenshot.find d root r.fileName).map (Screenshot.load d) with
  | some (.ok encoded) => { r with screenshot := encoded, screenshotMissing := false }
  | _ => r

/-- The finished report of a test. -/
def TestCase.finalReport (d : Disk) (root : String) (c : ReportContext) (t : TestCase) :
    TestReport :=
  let r := t.report c
  if r.isFailed then r.withScreenshot d root else r

def Suite.reports (d : Disk) (root : String) (c : ReportContext) (s : Suite) : List TestReport :=
  s.tests.map (TestCase.finalReport d root { c with suiteTitle := s.title.getD "" })

def FileResult.reports (d : Disk) (root : String) (c : ReportContext) (f : FileResult) :
    List TestReport :=
  f.suites.flatMap (Suite.reports d root { c with file := f.file.getD unknownName })

def RunResults.reports (r : RunResults) (d : Disk) (root runId : String) (now : Instant) :
    List TestReport :=
  r.results.flatMap (FileResult.reports d root ⟨runId, r.runTime now, unknownName, ""⟩)

end SessionReplay
