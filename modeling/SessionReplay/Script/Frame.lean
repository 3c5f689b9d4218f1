/-!
# Frames

Instructions that act on an element inside a frame are scoped to the body of that frame.

* `Line`: an instruction and whether it acts on the element of the step.
* `enclose`: instructions inside the scope of a frame.
* `scope`: each run of element-bound instructions inside the scope, all others outside.
-/

namespace SessionReplay.Script

inductive Line where
  | bound (text : String)
  | free (text : String)
  deriving DecidableEq, Repr

def Line.text : Line → String
  | bound text => text
  | free text => text

def frameOpening (index : UInt64) : String :=
  "cy.get('iframe').eq(" ++ toString index.toNat
    ++ ").its('0.contentDocument.body').should('not.be.empty').then(cy.wrap).within(() => \x7b"

def frameClosing : String := "\x7d);"

def enclose (index : UInt64) (lines : List String) : List String :=
  frameOpening index :: lines.map ("  " ++ ·) ++ [frameClosing]

/-- A run that is complete, if there is one. -/
def closeRun (index : UInt64) (run : List String) : List String :=
  if run.isEmpty then [] else enclose index run

/-- The lines in the scope of a frame, given the run of bound lines that is open. -/
def scopeFrom (index : UInt64) (run : List String) : List Line → List String
  | [] => closeRun index run
  | .bound text :: rest => scopeFrom index (run ++ [text]) rest
  | .free text :: rest => closeRun index run ++ text :: scopeFrom index [] rest

def scope (frame : Option UInt64) (lines : List Line) : List String :=
  match frame with
  | none => lines.map Line.text
  | some index => scopeFrom index [] lines

end SessionReplay.Script
