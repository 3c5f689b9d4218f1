import SessionReplay.Conversion.Basic
import SessionReplay.Job.Basic
import SessionReplay.Program.Basic
import SessionReplay.Settings.Basic

/-!
# The pipeline

What the stages of a job work with: folders and files, the commands that run a script and merge
reports, and the access to the reporting system.

* `Pipeline`, `Settings.pipeline`.
* `Pipeline.persist`, `Pipeline.compile`, `Pipeline.execute`: the stages before the report.
-/

namespace SessionReplay

structure Pipeline where
  recordingsDir : String
  scriptsDir : String
  conversionLog : String
  reportsDir : String
  resultsPath : String
  screenshotsDir : String
  runner : Command
  merger : Command
  /-- How long a command may take. -/
  limit : Option Duration
  /-- Without an account nothing can be published. -/
  account : Option Account
  deriving DecidableEq, Repr

def Settings.pipeline (s : Settings) (account : Option Account) : Pipeline where
  recordingsDir := s.recordingsDir
  scriptsDir := s.scriptsDir
  conversionLog := s.conversionLog
  reportsDir := s.reportsDir
  resultsPath := s.resultsPath
  screenshotsDir := s.screenshotsDir
  runner := s.runner
  merger := s.merger
  limit := s.timeoutSecs.map Duration.ofSeconds
  account := account

namespace Pipeline

open Storage

def failedTo (verb path : String) (fault : Fault) : Trouble :=
  ⟨"Failed to " ++ verb ++ " " ++ path, [fault.message]⟩

def recordingPath (p : Pipeline) (j : Job) : String :=
  Path.join p.recordingsDir (j.stem ++ ".json")

/-- Writes a text to a file in a folder, which is made if there is none. -/
def store (folder path text : String) (d : Disk) : Except Trouble Unit × Disk :=
  match d.makeFolders folder with
  | (.error fault, d) => (.error (failedTo "create" folder fault), d)
  | (.ok (), d) =>
    match d.writeText path text with
    | .ok d => (.ok (), d)
    | .error fault => (.error (failedTo "write" path fault), d)

/-- Stores the recording of a job and gives its path. -/
def persist (p : Pipeline) (j : Job) (d : Disk) : Except Trouble String × Disk :=
  let path := p.recordingPath j
  let (stored, d) := store p.recordingsDir path j.recording.pretty d
  (stored.map fun () => path, d)

def converter (p : Pipeline) : Converter := ⟨p.scriptsDir, p.conversionLog⟩

/-- Converts the recording that is stored at a path and gives the path of its script. -/
def compile (p : Pipeline) (recording : String) (h : Host) : Except Trouble String × Host :=
  let (converted, h) := p.converter.convert recording h
  ((converted.map Converted.script).mapError ConversionFailure.trouble, h)

/-- The command that runs a script for a run. -/
def runnerInvocation (p : Pipeline) (j : Job) (script : String) : Invocation :=
  ((Invocation.ofCommand p.runner).addArgs ["--spec", script]).setVariable "TEST_RUN_ID" j.runId

def executionResult (o : ProgramOutput) : StageResult :=
  let r : StageResult :=
    if o.isSuccess then .success "Runner finished"
    else .failure ("Runner exited with " ++ o.exitText)
  r.withExitCode o.exitCode

def execute (p : Pipeline) (programs : Programs) (j : Job) (script : String) (d : Disk) :
    Except Trouble StageResult × Disk :=
  let (output, d) := (p.runnerInvocation j script).run programs p.limit d
  (output.map executionResult, d)

end Pipeline
end SessionReplay
