import SessionReplay.CommandLine.Style
import SessionReplay.Conversion.Batch
import SessionReplay.Queue.Status

/-!
# What is printed

The lines that tell of conversions and of the queue.

* `Palette.batchLines`: what was converted and what was not.
* `Palette.statusLines`: what is being run, what waits and what became of the latest jobs.
-/

namespace SessionReplay.Palette

def doneMark (p : Palette) : String := p.paint (.strong .green) "✓"

def failedMark (p : Palette) : String := p.paint (.strong .red) "✗"

/-! ## Conversions -/

def convertedLines (p : Palette) (c : Converted) : List String :=
  (p.doneMark ++ " " ++ c.source ++ " -> " ++ p.paint (.plain .cyan) c.script)
    :: (if c.diagnostics = 0 then []
        else
          ["  " ++ p.paint .faint
            s!"{c.diagnostics} step(s) skipped or unhandled, see the conversion log"])

def failedLine (p : Palette) (f : Failed) : String :=
  p.failedMark ++ " " ++ f.source ++ ": " ++ f.message

def totalLine (p : Palette) (b : Batch) : String :=
  let converted := b.converted.length
  p.paint .heading s!"Converted {converted} of {converted + b.failed.length} recording(s)"

def batchLines (p : Palette) (folder : String) (b : Batch) : List String :=
  if b.isEmpty then [p.paint (.plain .yellow) ("No recordings found in " ++ folder ++ ".")]
  else
    b.converted.flatMap p.convertedLines ++ b.failed.map p.failedLine ++ ["", p.totalLine b]

/-! ## The queue -/

def runText (p : Palette) (testName runId : String) : String :=
  p.paint (.plain .cyan) testName ++ " " ++ p.paint .faint ("(run " ++ runId ++ ")")

/-- A point of time to the second. -/
def secondText (t : Instant) : String := t.dateText ++ " " ++ t.clockText ++ " UTC"

def runningLines (p : Palette) (running : Option RunningJob) : List String :=
  match running with
  | none => [p.paint (.plain .yellow) "Nothing running."]
  | some r =>
    [p.paint .heading "Running:",
     "  " ++ p.runText r.testName r.runId ++ " "
       ++ p.paint (.plain .yellow) ("stage: " ++ r.stage.name),
     "  " ++ p.paint .faint "Started:" ++ " " ++ secondText r.startedAt]

def waitingLine (p : Palette) (position : Nat) (job : QueuedJob) : String :=
  s!"  {position}. " ++ p.runText job.testName job.runId

def waitingLines (p : Palette) (s : QueueStatus) : List String :=
  if s.queueItems.isEmpty then [p.paint (.plain .yellow) "Queue is empty."]
  else
    p.paint .heading s!"Queued ({s.queueLength.toNat}):"
      :: s.queueItems.mapIdx fun i job => p.waitingLine (i + 1) job

def stageLine (p : Palette) (r : StageReport) : String :=
  let style := if r.result.ok then Style.faint else Style.plain .red
  "      " ++ p.paint style (r.stage.name ++ ": " ++ r.result.message)

def outcomeLines (p : Palette) (o : Outcome) : List String :=
  let mark := if o.failedStages.isEmpty then p.doneMark else p.failedMark
  ("  " ++ mark ++ " " ++ p.runText o.testName o.runId) :: o.stages.map p.stageLine

def recentLines (p : Palette) (recent : List Outcome) : List String :=
  if recent.isEmpty then []
  else "" :: p.paint .heading "Recent:" :: recent.flatMap p.outcomeLines

def statusLines (p : Palette) (s : QueueStatus) : List String :=
  p.runningLines s.currentRunning ++ "" :: p.waitingLines s ++ p.recentLines s.recent

end SessionReplay.Palette
