import SessionReplay.Json.Record

/-!
# Recorded steps

One interaction or assertion of a recorded browser session. Recorders disagree on details, so
some fields are read leniently: a text may be given as any value, a pixel count as any number, a
group of selectors as a single selector, and `null` stands for a list that is empty.

* `StepKind`: what the step does; an unknown kind keeps its name.
* `Step`, `Step.decode`, `Step.toJson`.
* `pixels`: the pixel count that a number stands for.
-/

namespace SessionReplay

open Json

inductive StepKind where
  | setViewport
  | navigate
  | click
  | doubleClick
  | change
  | keyDown
  | keyUp
  | submit
  | scroll
  | hover
  | waitForElement
  | assert
  | unknown (name : String)
  deriving DecidableEq, Repr

namespace StepKind

def name : StepKind → String
  | setViewport => "setViewport"
  | navigate => "navigate"
  | click => "click"
  | doubleClick => "doubleClick"
  | change => "change"
  | keyDown => "keyDown"
  | keyUp => "keyUp"
  | submit => "submit"
  | scroll => "scroll"
  | hover => "hover"
  | waitForElement => "waitForElement"
  | assert => "assert"
  | unknown name => name

def ofName : String → StepKind
  | "setViewport" => setViewport
  | "navigate" => navigate
  | "click" => click
  | "doubleClick" => doubleClick
  | "change" => change
  | "keyDown" => keyDown
  | "keyUp" => keyUp
  | "submit" => submit
  | "scroll" => scroll
  | "hover" => hover
  | "waitForElement" => waitForElement
  | "assert" => assert
  | name => unknown name

def isKnown : StepKind → Bool
  | unknown _ => false
  | _ => true

end StepKind

/-- How far a page or an element was scrolled. -/
structure ScrollOffset where
  x : Double
  y : Double
  deriving DecidableEq, Repr, Inhabited

/-- `selectors` holds the groups of candidates for the element, and `frame` the path of frame
indices to the document that holds it, empty for the page itself. -/
structure Step where
  kind : StepKind
  url : Option String := none
  target : Option String := none
  value : Option String := none
  key : Option String := none
  selectors : List (List String) := []
  scroll : Option ScrollOffset := none
  frame : List UInt64 := []
  assertion : Option String := none
  width : Option UInt32 := none
  height : Option UInt32 := none
  deriving DecidableEq, Repr

/-! ## Lenient values -/

/-- The number of pixels that a number stands for: rounded, a half away from zero, and no more
than 32 bits hold. Negative numbers stand for none. -/
def pixels : Number → Option UInt32
  | .natural n => some (min n.toNat 4294967295).toUInt32
  | .negative _ => none
  | .real x =>
    let r := x.roundHalfAway
    if x.negative ∧ r ≠ 0 then none else some (min r 4294967295).toUInt32

namespace Json

def pixels? : Json → Option UInt32
  | .number n => pixels n
  | _ => none

/-- A text as it is, and any other value but `null` as its compact text. -/
def lenientText? : Json → Option String
  | .null => none
  | .string s => some s
  | v => some v.compact

/-- The texts of a list that holds nothing else. -/
def asStrings? : Json → Option (List String)
  | .array items => items.mapM asString?
  | _ => none

/-- A group of selectors; one selector alone is a group of its own. -/
def selectorGroup? : Json → Option (List String)
  | .string s => some [s]
  | v => asStrings? v

namespace Node

def asPixels (node : Node) : Except Fault (Option UInt32) := Json.pixels? <$> node.toJson

def asLenientText (node : Node) : Except Fault (Option String) :=
  Json.lenientText? <$> node.toJson

def asSelectorGroup (node : Node) : Except Fault (List String) := do
  let v ← node.toJson
  match v.selectorGroup? with
  | some group => .ok group
  | none =>
    .error (.plain (.refused "data did not match any variant of untagged enum SelectorGroup"))

end Node

end Json

/-! ## Reading and writing -/

namespace ScrollOffset

def decode : Node → Except Fault ScrollOffset :=
  Fields.decode "ScrollPosition"
    (ScrollOffset.mk <$> .withDefault "x" Node.asDouble (.zero false)
      <*> .withDefault "y" Node.asDouble (.zero false))

def toJson (o : ScrollOffset) : Json :=
  .object [("x", .number (.real o.x)), ("y", .number (.real o.y))]

end ScrollOffset

namespace Step

def fields : Fields Step :=
  Step.mk <$> .required "type" (fun node => StepKind.ofName <$> node.asString)
    <*> .optional "url" Node.asString
    <*> .withDefault "target" Node.asLenientText none
    <*> .withDefault "value" Node.asLenientText none
    <*> .withDefault "key" Node.asLenientText none
    <*> .withDefault "selectors" (Node.asListOrNull Node.asSelectorGroup) []
    <*> .optional "scrollPosition" ScrollOffset.decode
    <*> .withDefault "frame" (Node.asListOrNull (Node.asWord "usize")) []
    <*> .optional "assertion" Node.asString
    <*> .withDefault "width" Node.asPixels none
    <*> .withDefault "height" Node.asPixels none

def decode : Node → Except Fault Step := Fields.decode "Step" fields

/-- A member that is left out where there is no value. -/
def member {α : Type} (name : String) (write : α → Json) : Option α → List (String × Json)
  | none => []
  | some a => [(name, write a)]

def listMember {α : Type} (name : String) (write : α → Json) (as : List α) :
    List (String × Json) :=
  if as.isEmpty then [] else [(name, .array (as.map write))]

def toJson (s : Step) : Json :=
  .object <|
    [("type", .string s.kind.name)]
    ++ member "url" .string s.url
    ++ member "target" .string s.target
    ++ member "value" .string s.value
    ++ member "key" .string s.key
    ++ listMember "selectors" (fun group => .array (group.map .string)) s.selectors
    ++ member "scrollPosition" ScrollOffset.toJson s.scroll
    ++ listMember "frame" Json.ofWord s.frame
    ++ member "assertion" .string s.assertion
    ++ member "width" (fun w => Json.ofWord w.toUInt64) s.width
    ++ member "height" (fun h => Json.ofWord h.toUInt64) s.height

/-- The frame that the step ran in, if it was not the page itself. -/
def frameIndex (s : Step) : Option UInt64 := s.frame.head?

end Step
end SessionReplay
