import SessionReplay.Recording.Step

/-!
# Recordings

A recorded browser session: a title, the size of the viewport and the steps in order. The steps
are kept as they were written and decoded one at a time, so that a malformed step spoils nothing
but itself.

* `Viewport`, `Recording` with their readers and writers.
* `Recording.ofText`: the recording in a text.
-/

namespace SessionReplay

open Json

/-- Width and height in pixels, zero where they were not recorded. -/
structure Viewport where
  width : UInt32
  height : UInt32
  deriving DecidableEq, Repr

namespace Viewport

def isSet (v : Viewport) : Bool := 0 < v.width && 0 < v.height

/-- A dimension; what is not a pixel count is zero. -/
def asDimension (node : Node) : Except Fault UInt32 := (·.getD 0) <$> node.asPixels

def decode : Node → Except Fault Viewport :=
  Fields.decode "Viewport"
    (Viewport.mk <$> .withDefault "width" asDimension 0 <*> .withDefault "height" asDimension 0)

def toJson (v : Viewport) : Json :=
  .object [("width", .ofWord v.width.toUInt64), ("height", .ofWord v.height.toUInt64)]

end Viewport

structure Recording where
  title : Option String := none
  viewport : Option Viewport := none
  steps : List Json := []
  deriving Repr

namespace Recording

def decode : Node → Except Fault Recording :=
  Fields.decode "Recording"
    (Recording.mk <$> .optional "title" Node.asString
      <*> .optional "viewport" Viewport.decode
      <*> .withDefault "steps" (Node.asListOrNull Node.toJson) [])

def ofText (text : String) : Except Fault Recording := decodeText decode text

def toJson (r : Recording) : Json :=
  .object <|
    Step.member "title" .string r.title
    ++ Step.member "viewport" Viewport.toJson r.viewport
    ++ [("steps", .array r.steps)]

/-- The kind that a step names, where it names one. -/
def stepName? (step : Json) : Option String := (step.get? "type").bind asString?

end Recording
end SessionReplay
