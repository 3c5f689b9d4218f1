import SessionReplay.CommandLine.Reader
import SessionReplay.Report.Publish

/-!
# What can be asked for

* `Operation`: the things that can be done.
* `Order`: an operation, and the address of the queue that it may need.
* `Order.ofArgs`: the order in the arguments of the program.
-/

namespace SessionReplay.CommandLine

/-- Folders and files of a conversion. -/
structure ConversionPaths where
  input : String
  output : String
  log : String
  deriving DecidableEq, Repr

inductive Operation where
  | convert (paths : ConversionPaths)
  | submit (name file runId : String)
  | showQueue
  | checkHealth
  | publish (files : Account.RunFiles) (runId : String)
  /-- Downloads recordings into the input of a conversion, which may follow. -/
  | fetch (paths : ConversionPaths) (converts : Bool)

structure Order where
  queueAddress : String
  operation : Operation

/-! ## The verbs -/

def pathFlag (name : String) : FlagForm := ⟨name, some .path, false⟩

def runIdFlag : FlagForm := ⟨"run-id", some .text, true⟩

def addressFlag : FlagForm := ⟨"orchestrator-url", some .text, false⟩

def convertVerb : Verb := .leaf [pathFlag "input", pathFlag "output", pathFlag "log"] []

def submitVerb : Verb := .leaf [runIdFlag] [⟨"name", .text⟩, ⟨"file", .path⟩]

def publishVerb : Verb :=
  .leaf [pathFlag "results", pathFlag "screenshots", pathFlag "reports", runIdFlag] []

def fetchVerb : Verb :=
  .leaf [pathFlag "output", ⟨"convert", none, false⟩, pathFlag "scripts", pathFlag "log"] []

def verbs : Verb :=
  .mk [addressFlag] []
    [("convert", convertVerb),
     ("test", .group [("submit", submitVerb), ("status", .leaf [] [])]),
     ("health", .leaf [] []),
     ("report", .group [("publish", publishVerb)]),
     ("recordings", .group [("fetch", fetchVerb)])]

/-! ## Orders -/

def defaultAddress : String := "http://localhost:3000"

namespace Selection

def valueOr (s : Selection) (fallback name : String) : String := (s.value? name).getD fallback

def operation? (s : Selection) : Option Operation :=
  let scripts := "cypress/e2e"
  let recordings := "recordings"
  let log := s.valueOr "conversion.log" "log"
  let runId := s.valueOr "" "run-id"
  match s.verbs with
  | ["convert"] =>
    some (.convert ⟨s.valueOr recordings "input", s.valueOr scripts "output", log⟩)
  | ["test", "submit"] => some (.submit (s.valueOr "" "name") (s.valueOr "" "file") runId)
  | ["test", "status"] => some .showQueue
  | ["health"] => some .checkHealth
  | ["report", "publish"] =>
    some (.publish ⟨s.valueOr "cypress/results.json" "results",
      s.valueOr "cypress/screenshots" "screenshots", s.valueOr "cypress/reports" "reports"⟩ runId)
  | ["recordings", "fetch"] =>
    some (.fetch ⟨s.valueOr recordings "output", s.valueOr scripts "scripts", log⟩
      (s.has "convert"))
  | _ => none

end Selection

def Order.ofArgs (args : List String) : Except UsageFault Order := do
  let selection ← verbs.read {} args
  match selection.operation? with
  | some operation => .ok ⟨selection.valueOr defaultAddress "orchestrator-url", operation⟩
  | none => .error .missingVerb

end SessionReplay.CommandLine
