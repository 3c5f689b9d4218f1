import SessionReplay.Json.Record
import SessionReplay.Service.Failure
import SessionReplay.Storage.Disk
import SessionReplay.Time.Instant

/-!
# Results of a run

The document that is left when the reports of all test files are merged. Anything may be missing
from it.

* `RunResults`, `FileResult`, `Suite`, `TestCase`: the document. Suites inside suites are not
  looked at.
* `RunResults.load`: the document in a file.
* `RunResults.runTime`: when the run ended.
-/

namespace SessionReplay

open Json

structure TestCase where
  title : Option String
  fullTitle : Option String
  state : Option String
  pass : Option Bool
  duration : Option UInt64
  /-- What a test that failed says about it. -/
  failure : Option (Option String)
  deriving DecidableEq, Repr

structure Suite where
  title : Option String
  tests : List TestCase
  deriving DecidableEq, Repr

structure FileResult where
  file : Option String
  suites : List Suite
  deriving DecidableEq, Repr

structure RunResults where
  /-- The text in which the end of the run is given, inside the statistics. -/
  finished : Option (Option String)
  results : List FileResult
  deriving DecidableEq, Repr

namespace TestCase

def decodeFailure : Node → Except Fault (Option String) :=
  Fields.decode "TestFailure" (.optional "message" Node.asString)

def decode : Node → Except Fault TestCase :=
  Fields.decode "TestCase"
    (TestCase.mk <$> .optional "title" Node.asString <*> .optional "fullTitle" Node.asString
      <*> .optional "state" Node.asString <*> .optional "pass" Node.asBool
      <*> .optional "duration" (Node.asWord "u64") <*> .optional "err" decodeFailure)

end TestCase

namespace Suite

def decode : Node → Except Fault Suite :=
  Fields.decode "Suite"
    (Suite.mk <$> .optional "title" Node.asString
      <*> .withDefault "tests" (Node.asList TestCase.decode) [])

end Suite

namespace FileResult

def decode : Node → Except Fault FileResult :=
  Fields.decode "SpecResult"
    (FileResult.mk <$> .optional "file" Node.asString
      <*> .withDefault "suites" (Node.asList Suite.decode) [])

end FileResult

namespace RunResults

def decodeStatistics : Node → Except Fault (Option String) :=
  Fields.decode "RunStats" (.optional "end" Node.asString)

def decode : Node → Except Fault RunResults :=
  Fields.decode "MergedResults"
    (RunResults.mk <$> .optional "stats" decodeStatistics
      <*> .withDefault "results" (Node.asList FileResult.decode) [])

def ofText (path text : String) : Except ServiceFailure RunResults :=
  match Json.decodeText decode text with
  | .ok r => .ok r
  | .error f => .error (.unreadable ("Invalid results file " ++ path ++ ": " ++ f.message))

def load (d : Disk) (path : String) : Except ServiceFailure RunResults :=
  match d.readText path with
  | .ok text => ofText path text
  | .error fault => .error (.storage path fault)

/-- The end of the run, or else the present. -/
def runTime (r : RunResults) (now : Instant) : String :=
  let stated := r.finished.join.bind fun text => (Instant.readStrict text).toOption
  (stated.getD now).millisText

end RunResults
end SessionReplay
