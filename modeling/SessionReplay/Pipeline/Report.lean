import SessionReplay.Pipeline.Basic
import SessionReplay.Report.Publish
import SessionReplay.Storage.Stray

/-!
# The report stage

The reports that the runner left are merged into one file of results, which is published. However
this ends, the reports and the results are purged. The folder of reports can hold names that are no
texts; it holds none unless they are given.

* `Pipeline.reportNames`: the names of the reports that are merged, in ascending order.
* `Pipeline.reportFiles`: their paths, as the merger is given them.
* `Pipeline.merge`: the number of files that were merged.
* `Pipeline.report`.
-/

namespace SessionReplay.Pipeline

open Storage

/-! ## Merging -/

def isReportFile (name : String) : Bool := Path.extension? name == some "json"

/-- The same for a name of either kind. -/
def isReport : EntryName → Bool
  | .text name => isReportFile name
  | .stray name => name.extension? == some (Text.utf8 "json")

/-- The reports in the folder for them, if there is one. -/
def reportNames (p : Pipeline) (d : Disk) (strays : Strays := .none) :
    Except Trouble (List EntryName) :=
  match d.listBeside strays p.reportsDir with
  | .ok names => .ok (EntryName.sort (names.filter isReport))
  | .error .notFound => .ok []
  | .error fault => .error (failedTo "list" p.reportsDir fault)

/-- The paths of the reports, as texts. -/
def reportFiles (p : Pipeline) (d : Disk) (strays : Strays := .none) :
    Except Trouble (List String) :=
  (p.reportNames d strays).map fun names => names.map (EntryName.shown p.reportsDir)

/-- Removes results that are left over from an earlier run. -/
def removeStale (p : Pipeline) (d : Disk) : Except Trouble Disk :=
  if d.has p.resultsPath then
    (d.remove p.resultsPath).mapError (failedTo "remove stale" p.resultsPath)
  else .ok d

def mergerInvocation (p : Pipeline) (files : List String) : Invocation :=
  { (Invocation.ofCommand p.merger).addArgs files with capture := true }

/-- Writes the results, in a folder that is made if the path names one that is missing. -/
def storeResults (p : Pipeline) (text : String) (d : Disk) : Except Trouble Unit × Disk :=
  store ((Path.parent? p.resultsPath).getD "") p.resultsPath text d

/-- Merges report files, of which there is at least one. -/
def mergeFiles (p : Pipeline) (programs : Programs) (files : List String) (d : Disk) :
    Except Trouble Nat × Disk :=
  match (p.mergerInvocation files).run programs p.limit d with
  | (.error t, d) => (.error t, d)
  | (.ok output, d) =>
    if output.isSuccess then
      let (stored, d) := p.storeResults output.output d
      (stored.map fun () => files.length, d)
    else (.error ⟨"Report merge exited with " ++ output.exitText, []⟩, d)

def merge (p : Pipeline) (programs : Programs) (d : Disk) (strays : Strays := .none) :
    Except Trouble Nat × Disk :=
  match p.removeStale d with
  | .error t => (.error t, d)
  | .ok d =>
    match p.reportFiles d strays with
    | .error t => (.error t, d)
    | .ok [] => (.error ⟨"No report files in " ++ p.reportsDir, []⟩, d)
    | .ok files => p.mergeFiles programs files d

/-! ## Reporting -/

def runFiles (p : Pipeline) : Account.RunFiles := ⟨p.resultsPath, p.screenshotsDir, p.reportsDir⟩

def purge (p : Pipeline) (h : Host) : Host :=
  { h with disk := (h.disk.purge p.resultsPath p.reportsDir).2 }

def noAccount : Trouble := ⟨"Helix is not configured, results were not published", []⟩

def publishedResult (s : PublishSummary) : StageResult :=
  .success s!"Published {s.posted} results ({s.failedTests} failed)"

/-- Publishes the merged results. -/
def publish (p : Pipeline) (j : Job) (h : Host) : Except Trouble StageResult × Host :=
  match p.account with
  | none => (.error noAccount, p.purge h)
  | some account =>
    let (summary, h) := account.publishResults p.runFiles j.runId h
    ((summary.map publishedResult).mapError fun f =>
      f.trouble.within "Failed to publish results", h)

def report (p : Pipeline) (programs : Programs) (j : Job) (h : Host) (strays : Strays := .none) :
    Except Trouble StageResult × Host :=
  match p.merge programs h.disk strays with
  | (.error t, d) => (.error (t.within "Failed to merge reports"), p.purge { h with disk := d })
  | (.ok _, d) => p.publish j { h with disk := d }

end SessionReplay.Pipeline
