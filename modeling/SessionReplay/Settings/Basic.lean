import SessionReplay.Command
import SessionReplay.Net.Url
import SessionReplay.Settings.SocketAddress
import SessionReplay.Storage.Path

/-!
# Settings

Where the pipeline reads and writes, what it runs, and the limits on it. All settings come from
variables, of which blank ones count as not set.

* `Settings`: the values with their defaults.
* `Settings.load`: the values from a lookup of variables.
* `Settings.validate`: what is wrong with them.
* `Account`, `Account.load`: the access to the reporting system.
-/

namespace SessionReplay

structure Settings where
  bindAddress : String := "0.0.0.0:3000"
  recordingsDir : String := "recordings"
  scriptsDir : String := "cypress/e2e"
  conversionLog : String := "conversion.log"
  reportsDir : String := "cypress/reports"
  resultsPath : String := "cypress/results.json"
  screenshotsDir : String := "cypress/screenshots"
  runner : Command := ⟨"npx", ["cypress", "run", "--browser", "edge", "--headless"]⟩
  merger : Command := ⟨"npx", ["mochawesome-merge"]⟩
  timeoutSecs : Option UInt64 := none
  historyLimit : UInt64 := 20
  deriving DecidableEq, Repr

namespace Settings

/-- A lookup of variables. -/
abbrev Lookup := String → Option String

/-- The variable, if there is more to it than blanks. -/
def get (lookup : Lookup) (key : String) : Option String :=
  (lookup key).filter fun value => !Text.isBlankText value

inductive Problem where
  | timeoutNotNumber (given : String)
  | badAddress (given : String)
  | zeroTimeout
  | resultsWithoutName
  deriving DecidableEq, Repr

def Problem.message : Problem → String
  | timeoutNotNumber given =>
    "STAGE_TIMEOUT_SECS must be a number of seconds, got '" ++ given ++ "'"
  | badAddress given => "bind address '" ++ given ++ "' is not a valid socket address"
  | zeroTimeout => "stage timeout must be greater than 0"
  | resultsWithoutName => "results path must name a file"

/-- Decimal digits, perhaps behind a plus sign, for a number of 64 bits. -/
def word? (s : String) : Option UInt64 :=
  let digits := match s.toList with
    | '+' :: rest => rest
    | cs => cs
  if digits.isEmpty || !digits.all Char.isDigit then none
  else
    let n : Nat := digits.foldl (fun n c => 10 * n + (c.toNat - 48)) 0
    if n < UInt64.size then some n.toUInt64 else none

/-- The timeout in the variables, none where it is not set. -/
def loadTimeout (lookup : Lookup) : Except Problem (Option UInt64) :=
  match get lookup "STAGE_TIMEOUT_SECS" with
  | none => .ok none
  | some raw =>
    match word? (Text.trim raw) with
    | some n => .ok (some n)
    | none => .error (.timeoutNotNumber raw)

def loadCommand (lookup : Lookup) (key : String) (fallback : Command) : Command :=
  ((get lookup key).bind Command.ofText?).getD fallback

def load (lookup : Lookup) : Except Problem Settings := do
  let d : Settings := {}
  let text (key fallback : String) : String := (get lookup key).getD fallback
  let timeout ← loadTimeout lookup
  .ok {
    bindAddress := text "RECAST_BIND_ADDR" d.bindAddress
    recordingsDir := text "RECORDINGS_DIR" d.recordingsDir
    scriptsDir := text "SCRIPTS_DIR" d.scriptsDir
    conversionLog := text "CONVERSION_LOG" d.conversionLog
    reportsDir := text "REPORTS_DIR" d.reportsDir
    resultsPath := text "RESULTS_PATH" d.resultsPath
    screenshotsDir := text "SCREENSHOTS_DIR" d.screenshotsDir
    runner := loadCommand lookup "RUNNER_COMMAND" d.runner
    merger := loadCommand lookup "MERGE_COMMAND" d.merger
    timeoutSecs := timeout
    historyLimit :=
      ((get lookup "HISTORY_LIMIT").bind fun s => word? (Text.trim s)).getD d.historyLimit }

/-- The first thing that is wrong with the settings. -/
def validate (s : Settings) : Except Problem Unit :=
  if !isSocketAddress s.bindAddress then .error (.badAddress s.bindAddress)
  else if s.timeoutSecs == some 0 then .error .zeroTimeout
  else if (Path.fileName? s.resultsPath).isNone then .error .resultsWithoutName
  else .ok ()

end Settings

/-! ## Access to the reporting system -/

structure Account where
  url : String
  user : String
  password : String
  resultsForm : Option String
  recordingForm : Option String
  deriving DecidableEq, Repr

namespace Account

/-- The variables that have to be set. -/
def requiredKeys : List String := ["HELIX_URL", "HELIX_USER", "HELIX_PASS"]

/-- The account in the variables, or the names of those that are missing. -/
def load (lookup : Settings.Lookup) : Except (List String) Account :=
  let get := Settings.get lookup
  let missing := requiredKeys.filter fun key => (get key).isNone
  if missing.isEmpty then
    .ok ⟨Net.baseAddress ((get "HELIX_URL").getD ""), (get "HELIX_USER").getD "",
      (get "HELIX_PASS").getD "", get "HELIX_FORM", get "HELIX_RECORDING_FORM"⟩
  else .error missing

end Account
end SessionReplay
