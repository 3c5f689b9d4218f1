import SessionReplay.Report.Build
import SessionReplay.Report.Purge
import SessionReplay.Service.Reporting

/-!
# Publishing

* `Account.publish`: posts reports one after the other, up to the first that is refused.
* `Account.publishResults`: publishes the results in a file, and purges the files of the run
  whatever comes of it.
-/

namespace SessionReplay

structure PublishSummary where
  posted : Nat := 0
  failedTests : Nat := 0
  deriving DecidableEq, Repr

namespace PublishSummary

def add (s : PublishSummary) (r : TestReport) : PublishSummary :=
  ⟨s.posted + 1, if r.isFailed then s.failedTests + 1 else s.failedTests⟩

end PublishSummary

namespace Account

def reportEntry (r : TestReport) : Json := Entry.toJson TestReport.toJson ⟨r⟩

/-- Posts reports, given what was posted before. -/
def postReports (a : Account) (token form : String) (summary : PublishSummary) :
    List TestReport → Host → Except ServiceFailure PublishSummary × Host
  | [], h => (.ok summary, h)
  | r :: rest, h =>
    match a.postEntry token form (reportEntry r) h with
    | (.ok (), h) => a.postReports token form (summary.add r) rest h
    | (.error failure, h) => (.error failure, h)

def publish (a : Account) (reports : List TestReport) (h : Host) :
    Except ServiceFailure PublishSummary × Host :=
  match a.resultsForm with
  | none => (.error (.unset ["HELIX_FORM"]), h)
  | some form =>
    match a.login h with
    | (.ok token, h) => a.postReports token form {} reports h
    | (.error failure, h) => (.error failure, h)

/-- The files of a run: its results, its screenshots and the reports of its test files. -/
structure RunFiles where
  results : String
  screenshots : String
  reports : String

/-- Loads the results and publishes their reports. -/
def publishLoaded (a : Account) (files : RunFiles) (runId : String) (h : Host) :
    Except ServiceFailure PublishSummary × Host :=
  match RunResults.load h.disk files.results with
  | .error failure => (.error failure, h)
  | .ok results =>
    let (now, h) := h.now
    a.publish (results.reports h.disk files.screenshots runId now) h

def publishResults (a : Account) (files : RunFiles) (runId : String) (h : Host) :
    Except ServiceFailure PublishSummary × Host :=
  let (outcome, h) := a.publishLoaded files runId h
  (outcome, { h with disk := (h.disk.purge files.results files.reports).2 })

end Account
end SessionReplay
