import SessionReplay.Recording.Step
import SessionReplay.Script.Frame
import SessionReplay.Script.Selector

/-!
# Instructions of a step

Each kind of step has its instructions. A step that lacks what they need has none, and the reason
says what is missing; a step of an unknown kind is left in the script as a comment.

* `StepProblem`: why a step has no instructions.
* `instructions`: the lines of a step, element-bound or free.
* `Emission`, `emit`: the lines in the scope of the step's frame, or the placeholder.
-/

namespace SessionReplay.Script

inductive StepProblem where
  | missingSelector (kind : String)
  | missingField (kind field : String)
  | malformed (message : String)
  deriving DecidableEq, Repr

def StepProblem.message : StepProblem → String
  | missingSelector kind => kind ++ " is missing a selector"
  | missingField kind field => kind ++ " is missing '" ++ field ++ "'"
  | malformed message => "malformed step: " ++ message

inductive Emission where
  | code (lines : List String)
  | placeholder (line : String)
  deriving DecidableEq, Repr

/-! ## Parts of instructions -/

def navigationWait : Line := .free "cy.wait(2000); // let the page load"

def longWait : Line := .free "cy.wait(1000);"

def shortWait : Line := .free "cy.wait(500);"

def nonEmpty : Option String → Option String
  | some s => if s.isEmpty then none else some s
  | none => none

def nonZero : Option UInt32 → Option UInt32
  | some n => if n = 0 then none else some n
  | none => none

def need {α : Type} (problem : StepProblem) : Option α → Except StepProblem α
  | some a => .ok a
  | none => .error problem

def needField {α : Type} (s : Step) (field : String) : Option α → Except StepProblem α :=
  need (.missingField s.kind.name field)

/-- The lookup of the step's element. -/
def needElement (s : Step) (selector : Option String) : Except StepProblem String :=
  lookup <$> need (.missingSelector s.kind.name) selector

def viewportLine (width height : UInt32) : String :=
  s!"cy.viewport({width.toNat}, {height.toNat});"

def visit (url : String) : List Line := [.free ("cy.visit(" ++ quote url ++ ");"), navigationWait]

/-- An action on the step's element, and the wait for it to settle. -/
def act (s : Step) (selector : Option String) (action : String) (wait : List Line) :
    Except StepProblem (List Line) := do
  let element ← needElement s selector
  .ok (.bound (element ++ "." ++ action ++ ";") :: wait)

/-! ## Kinds of steps -/

def setViewport (s : Step) : Except StepProblem (List Line) := do
  let width ← needField s "width" (nonZero s.width)
  let height ← needField s "height" (nonZero s.height)
  .ok [.free (viewportLine width height)]

def navigate (s : Step) : Except StepProblem (List Line) := do
  let url ← needField s "url" (nonEmpty s.url)
  .ok (visit url)

/-- The target of a click, where it is the address of another page. -/
def otherPage? (s : Step) : Option String :=
  match s.target with
  | none => none
  | some target =>
    if (beginsWith "http://" target || beginsWith "https://" target) && s.url != some target then
      some target
    else none

def click (s : Step) (selector : Option String) : Except StepProblem (List Line) :=
  match otherPage? s with
  | some target =>
    .ok (.free "// click opened a new page, replaced with a visit" :: visit target)
  | none => act s selector "should('exist').first().click()" [longWait]

def change (s : Step) (selector : Option String) : Except StepProblem (List Line) :=
  match nonEmpty s.value with
  | some value => act s selector ("clear().type(" ++ quote value ++ ")") [longWait]
  | none => act s selector "clear()" [longWait]

/-- Keys that are pressed on the page, whatever the step's element is. -/
def pageKeys : List String := ["Tab", "Enter"]

def keyDown (s : Step) (selector : Option String) : Except StepProblem (List Line) := do
  let key ← needField s "key" (nonEmpty s.key)
  let press := Line.free ("cy.realPress(" ++ quote key ++ ");")
  if pageKeys.contains key then .ok [press, longWait]
  else
    match selector with
    | none => .ok [press]
    | some selector =>
      .ok [.bound (lookup selector ++ ".realType(" ++ quote key ++ ");"), shortWait]

def keyUp (s : Step) : List Line :=
  [.free ("// keyUp: " ++ flatten (s.key.getD "?") ++ " (no key-release command, ignored)")]

/-- A coordinate never has an exponent, and no fraction where it is whole. -/
def coordinateStyle : DecimalStyle := ⟨fun _ => true, ""⟩

def scroll (s : Step) (selector : Option String) : List Line :=
  let offset := s.scroll.getD default
  let call :=
    "scrollTo(" ++ coordinateStyle.write offset.x ++ ", " ++ coordinateStyle.write offset.y ++ ");"
  match selector with
  | some selector => [.bound (lookup selector ++ "." ++ call)]
  | none => [.free ("cy." ++ call)]

def assertElement (s : Step) (selector : Option String) : Except StepProblem (List Line) :=
  let kind := (nonEmpty s.assertion).getD "exist"
  match nonEmpty s.value with
  | some value => act s selector ("should(" ++ quote kind ++ ", " ++ quote value ++ ")") []
  | none => act s selector ("should(" ++ quote kind ++ ")") []

/-- The lines of a step of a known kind. -/
def instructions (s : Step) (selector : Option String) : Except StepProblem (List Line) :=
  match s.kind with
  | .setViewport => setViewport s
  | .navigate => navigate s
  | .click => click s selector
  | .doubleClick => act s selector "dblclick()" [longWait]
  | .submit => act s selector "submit()" [longWait]
  | .hover => act s selector "trigger('mouseover')" [shortWait]
  | .waitForElement => act s selector "should('exist')" []
  | .change => change s selector
  | .keyDown => keyDown s selector
  | .keyUp => .ok (keyUp s)
  | .scroll => .ok (scroll s selector)
  | .assert => assertElement s selector
  | .unknown _ => .ok []

def placeholder (kind : String) : String := "// Unhandled step type: " ++ flatten kind

/-- What a step becomes, with the selector that was chosen for its element. -/
def emit (s : Step) (selector : Option String) : Except StepProblem Emission :=
  match s.kind with
  | .unknown kind => .ok (.placeholder (placeholder kind))
  | _ => do
    let lines ← instructions s selector
    .ok (.code (scope s.frameIndex lines))

end SessionReplay.Script
