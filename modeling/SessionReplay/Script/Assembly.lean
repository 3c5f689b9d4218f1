import SessionReplay.Recording.Basic
import SessionReplay.Script.Instruction
import SessionReplay.Text.Blank

/-!
# Scripts

A recording becomes one test script: imports, the suite and the test, the viewport if it was
recorded, and a block of lines for each step. A step without instructions becomes a comment and a
diagnostic, and the others are not affected.

* `Script`: name, lines and diagnostics; `Script.source` is the text that is written.
* `stepBlock`: the block and the diagnostic of one step.
* `ofRecording`: the script of a recording.
-/

namespace SessionReplay.Script

inductive DiagnosticKind where
  | unhandled
  | failed (problem : StepProblem)
  deriving DecidableEq, Repr

/-- A step that has no instructions in the script; `index` counts from one. -/
structure Diagnostic where
  index : Nat
  stepName : String
  kind : DiagnosticKind
  deriving DecidableEq, Repr

def Diagnostic.message (d : Diagnostic) : String :=
  match d.kind with
  | .unhandled => s!"Step {d.index}: unhandled step type '" ++ d.stepName ++ "'"
  | .failed problem => s!"Step {d.index}: " ++ problem.message

end Script

structure Script where
  name : String
  lines : List String
  diagnostics : List Script.Diagnostic
  deriving DecidableEq, Repr

namespace Script

/-- The lines, each with a line feed behind it. -/
def source (s : Script) : String := String.intercalate "\n" s.lines ++ "\n"

/-! ## Steps -/

/-- The comment in place of a step that has no instructions. -/
def skippedLine (index : Nat) (stepName : String) (problem : StepProblem) : String :=
  s!"// Step {index} (" ++ flatten stepName ++ ") skipped: " ++ flatten problem.message

/-- A step without instructions. -/
def skippedStep (index : Nat) (stepName : String) (problem : StepProblem) :
    List String × Option Diagnostic :=
  ([skippedLine index stepName problem], some ⟨index, stepName, .failed problem⟩)

/-- The block of lines of a step and its diagnostic, if it has one. -/
def stepBlock (index : Nat) (step : Json) : List String × Option Diagnostic :=
  match Json.decodeValue Step.decode step with
  | .error fault =>
    skippedStep index ((Recording.stepName? step).getD "?") (.malformed fault.message)
  | .ok s =>
    match emit s (choose s.selectors) with
    | .ok (.code lines) => (lines, none)
    | .ok (.placeholder line) => ([line], some ⟨index, s.kind.name, .unhandled⟩)
    | .error problem => skippedStep index s.kind.name problem

/-! ## The whole script -/

def imports : List String := ["import 'cypress-xpath';", "import 'cypress-real-events/support';"]

def stepIndent : String := "    "

def opening (name : String) (viewport : Option Viewport) : List String :=
  imports ++
    ["", "describe(" ++ quote name ++ ", () => \x7b", "  it(" ++ quote name ++ ", () => \x7b"] ++
    match viewport with
    | some v => if v.isSet then [stepIndent ++ viewportLine v.width v.height] else []
    | none => []

def closing : List String := ["  \x7d);", "\x7d);"]

/-- A script that is being put together: the lines and diagnostics of the first `count` steps. -/
structure Draft where
  count : Nat
  lines : List String
  diagnostics : List Diagnostic

def Draft.add (d : Draft) (step : Json) : Draft :=
  let (block, diagnostic) := stepBlock (d.count + 1) step
  ⟨d.count + 1, d.lines ++ block.map (stepIndent ++ ·), d.diagnostics ++ diagnostic.toList⟩

/-- The title of the recording, if there is more to it than blanks. -/
def title? (r : Recording) : Option String :=
  match r.title with
  | some title => if Text.isBlankText title then none else some title
  | none => none

/-- The script of a recording, which is named by its title or else as `fallback` says. -/
def ofRecording (r : Recording) (fallback : String) : Script :=
  let name := (title? r).getD fallback
  let draft := r.steps.foldl Draft.add ⟨0, opening name r.viewport, []⟩
  ⟨name, draft.lines ++ closing, draft.diagnostics⟩

end Script
end SessionReplay
