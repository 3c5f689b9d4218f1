import SessionReplay.CommandLine.Display
import SessionReplay.CommandLine.Operation
import SessionReplay.Service.Download
import SessionReplay.Service.Remote

/-!
# Carrying out an order

* `Completion`: the lines that were printed, and how it ended.
* `Order.run`: an order is carried out on a host.
-/

namespace SessionReplay.CommandLine

structure Completion where
  lines : List String := []
  result : Except Trouble Unit := .ok ()

namespace Completion

/-- What is printed, each line with its end. -/
def output (c : Completion) : String := String.join (c.lines.map (· ++ "\n"))

def done (lines : List String) : Completion := { lines }

def failed (t : Trouble) : Completion := { result := .error t }

/-- Lines that were printed before. -/
def after (lines : List String) (c : Completion) : Completion :=
  { c with lines := lines ++ c.lines }

/-- The completion of something that a service was needed for. -/
def ofAnswer {α : Type} (within : String) (describe : α → List String)
    (answer : Except ServiceFailure α) : Completion :=
  match answer with
  | .ok a => done (describe a)
  | .error failure => failed (failure.trouble.within within)

end Completion

/-! ## Conversions -/

def convertFolder (paths : ConversionPaths) (h : Host) : Except Trouble Batch × Host :=
  let (result, h) := Converter.convertAll ⟨paths.output, paths.log⟩ paths.input h
  (result.mapError fun f => f.trouble.within "Failed to convert recordings", h)

def failedCount (b : Batch) : Except Trouble Unit :=
  if b.failed.isEmpty then .ok ()
  else .error ⟨s!"{b.failed.length} recording(s) failed to convert", []⟩

def runConvert (p : Palette) (paths : ConversionPaths) (h : Host) : Completion × Host :=
  match convertFolder paths h with
  | (.error t, h) => (.failed t, h)
  | (.ok b, h) => (⟨p.batchLines paths.input b, failedCount b⟩, h)

/-! ## The queue on a server -/

def healthLines (p : Palette) (address : String) (health : Health) : List String :=
  [p.doneMark ++ " Orchestrator at " ++ p.paint (.plain .cyan) address ++ " is "
    ++ p.paint (.plain .green) health.status]

def runCheckHealth (p : Palette) (address : String) (h : Host) : Completion × Host :=
  let (answer, h) := (RemoteQueue.ofAddress address).health h
  (.ofAnswer ("Orchestrator at " ++ address ++ " is unreachable") (healthLines p address) answer, h)

def runShowQueue (p : Palette) (address : String) (h : Host) : Completion × Host :=
  let (answer, h) := (RemoteQueue.ofAddress address).status h
  (.ofAnswer "Failed to read queue status" p.statusLines answer, h)

/-- The document in a file. -/
def loadDocument (file : String) (d : Disk) : Except Trouble Json := do
  let text ← (d.readText file).mapError fun fault => ⟨"Failed to read " ++ file, [fault.message]⟩
  (Json.parse text).mapError fun fault => ⟨file ++ " is not valid JSON", [fault.message]⟩

def acceptedLines (p : Palette) (a : Accepted) : List String :=
  p.paint (.strong .green) ("✓ " ++ a.message)
    :: (if a.position = 0 then []
        else
          ["  " ++ p.paint .faint "Jobs ahead:" ++ " "
            ++ p.paint (.plain .cyan) (toString a.position.toNat)])

def runSubmit (p : Palette) (address name file runId : String) (h : Host) : Completion × Host :=
  match loadDocument file h.disk with
  | .error t => (.failed t, h)
  | .ok recording =>
    let (answer, h) :=
      (RemoteQueue.ofAddress address).submit (.ofParts name recording runId) h
    (.ofAnswer "Failed to submit test" (acceptedLines p) answer, h)

/-! ## The reporting system -/

def summaryLines (p : Palette) (s : PublishSummary) : List String :=
  p.paint (.strong .green) s!"✓ Published {s.posted} result(s)"
    :: (if s.failedTests = 0 then []
        else ["  " ++ p.paint (.plain .yellow) s!"{s.failedTests} failed test(s) in this run"])

def runPublish (p : Palette) (a : Account) (files : Account.RunFiles) (runId : String) (h : Host) :
    Completion × Host :=
  let started := p.paint .faint ("Publishing " ++ files.results ++ " to " ++ a.url ++ "...")
  let (answer, h) := a.publishResults files runId h
  ((Completion.ofAnswer "Failed to publish results" (summaryLines p) answer).after [started], h)

/-- Downloads recordings into a folder; how many of them were saved. -/
def download (a : Account) (folder : String) (h : Host) :
    Except Trouble (Nat × Nat) × Host :=
  match a.login h with
  | (.error f, h) => (.error (f.trouble.within "Helix login failed"), h)
  | (.ok token, h) =>
    match a.fetchRecordings token h with
    | (.error f, h) => (.error (f.trouble.within "Failed to fetch recordings"), h)
    | (.ok entries, h) =>
      let (saved, disk) := saveRecordings entries folder h.disk
      ((saved.map fun n => (n, entries.length)).mapError ServiceFailure.trouble,
        { h with disk })

def savedLine (p : Palette) (folder : String) (saved total : Nat) : String :=
  p.paint (.strong .green) (s!"✓ Saved {saved} of {total} recording(s) to " ++ folder)

/-- Converts what was downloaded. Recordings that fail are no failure of the download. -/
def convertDownloaded (p : Palette) (paths : ConversionPaths) (h : Host) : Completion × Host :=
  match convertFolder paths h with
  | (.error t, h) => (.failed t, h)
  | (.ok b, h) => (.done (p.batchLines paths.input b), h)

def runFetch (p : Palette) (a : Account) (paths : ConversionPaths) (converts : Bool) (h : Host) :
    Completion × Host :=
  match download a paths.input h with
  | (.error t, h) => (.failed t, h)
  | (.ok (saved, total), h) =>
    let line := savedLine p paths.input saved total
    if converts then
      let (c, h) := convertDownloaded p paths h
      (c.after [line, ""], h)
    else (.done [line], h)

/-! ## Orders -/

/-- Does something with the account in the environment, if it is there. -/
def withAccount (environment : Settings.Lookup) (run : Account → Host → Completion × Host)
    (h : Host) : Completion × Host :=
  match Account.load environment with
  | .ok account => run account h
  | .error missing => (.failed (ServiceFailure.unset missing).trouble, h)

def Order.run (o : Order) (p : Palette) (environment : Settings.Lookup) (h : Host) :
    Completion × Host :=
  match o.operation with
  | .convert paths => runConvert p paths h
  | .submit name file runId => runSubmit p o.queueAddress name file runId h
  | .showQueue => runShowQueue p o.queueAddress h
  | .checkHealth => runCheckHealth p o.queueAddress h
  | .publish files runId => withAccount environment (runPublish p · files runId) h
  | .fetch paths converts => withAccount environment (runFetch p · paths converts) h

end SessionReplay.CommandLine
