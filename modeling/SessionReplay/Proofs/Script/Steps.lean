import SessionReplay.Script.Assembly

/-!
# The lines of a script

* `stepLines`: the blocks of steps one after the other, indented.
* `lines_ofRecording`: what stands around them.
* `lines_around`: the block of one step and the lines before and behind it.
-/

namespace SessionReplay.Script

/-- The indented block of a step. -/
def indentedBlock (index : Nat) (step : Json) : List String :=
  (stepBlock index step).1.map (stepIndent ++ ·)

/-- The blocks of steps, of which the first one has the index behind `count`. -/
def stepLines (count : Nat) : List Json → List String
  | [] => []
  | step :: steps => indentedBlock (count + 1) step ++ stepLines (count + 1) steps

theorem stepLines_append (count : Nat) (before after : List Json) :
    stepLines count (before ++ after) =
      stepLines count before ++ stepLines (count + before.length) after := by
  induction before generalizing count with
  | nil => rfl
  | cons step before ih =>
    have hCount : count + 1 + before.length = count + (before.length + 1) := by omega
    simp [stepLines, ih, hCount]

/-- The lines of a draft to which steps are added. -/
theorem foldl_add_lines (d : Draft) (steps : List Json) :
    (steps.foldl Draft.add d).lines = d.lines ++ stepLines d.count steps := by
  induction steps generalizing d with
  | nil => simp [stepLines]
  | cons step steps ih =>
    rw [List.foldl_cons, ih, stepLines, ← List.append_assoc]
    rfl

/-- The name of the script of a recording. -/
def nameOf (r : Recording) (fallback : String) : String := (title? r).getD fallback

theorem lines_ofRecording (r : Recording) (fallback : String) :
    (ofRecording r fallback).lines =
      opening (nameOf r fallback) r.viewport ++ stepLines 0 r.steps ++ closing := by
  rw [ofRecording]
  exact congrArg (· ++ closing) (foldl_add_lines _ _)

/-- The lines before the block of a step. -/
def linesBefore (r : Recording) (fallback : String) (before : List Json) : List String :=
  opening (nameOf r fallback) r.viewport ++ stepLines 0 before

theorem lines_around {r : Recording} {before after : List Json} {step : Json}
    (hSteps : r.steps = before ++ step :: after) (fallback : String) :
    (ofRecording r fallback).lines =
      linesBefore r fallback before ++ indentedBlock (before.length + 1) step ++
        (stepLines (before.length + 1) after ++ closing) := by
  rw [lines_ofRecording, hSteps, stepLines_append]
  simp [stepLines, linesBefore]

end SessionReplay.Script
