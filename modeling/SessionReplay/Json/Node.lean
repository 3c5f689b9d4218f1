import SessionReplay.Json.Fault

/-!
# Annotated documents

A document as its readers see it: the tree of its values, with the place of each of them where it
came from a text, and with the faults of the text at the points where a reader would run into
them. A reader that stops early never sees the faults behind that point, and a value that is
skipped is looked at less closely than one that is read.

* `Node`: a value, or the point where the text breaks off.
* `Node.skip`: the fault of a value that nobody reads.
* `Node.toJson`: the value, or its first fault.
* `Node.ofJson`: a value that was made, not read: it has no places and no grammar faults.
-/

namespace SessionReplay.Json

/-- What happens if an array or object is closed at a point: where the attempt ends, and its
fault if there is more to come. -/
structure Close where
  stop : Option Place
  fault : Option Fault
  deriving DecidableEq, Repr

/-- The end of an array or object: its closing bracket, or the fault that stands in its place for
a reader and for one who skips. -/
inductive Tail where
  | closed (stop : Option Place)
  | broken (read skipped : Fault)
  deriving DecidableEq, Repr

/-- A member of an object: its name and the place behind it, the attempt to close the object there,
the value or the fault of what stands in place of the colon before it, and the place of what follows
the value. -/
structure Member (α : Type) where
  name : Except Fault String
  stop : Option Place
  close : Close
  value : Except Fault α
  next : Option Place

/-- A value of a document. `start` is the place before it, `stop` the place behind it, `depth` the
number of arrays and objects around it. A number or text that is sound but cannot be represented
has a fault for those who read it. A broken value has a `start` only if its first character shows
that it is no text. Where no name follows the opening brace of an object, `lead` is the fault of
one who takes what does follow for a name. -/
inductive Node where
  /-- The text ends where a value should begin. -/
  | missing (start : Option Place)
  | broken (start : Option Place) (read skipped : Fault)
  | null (start stop : Option Place)
  | bool (b : Bool) (start stop : Option Place)
  | number (value : Except Fault Number) (start stop : Option Place)
  | string (value : Except Fault String) (start stop : Option Place)
  | array (start : Option Place) (depth : Nat) (first : Close) (items : List (Node × Close))
      (tail : Tail)
  | object (start : Option Place) (depth : Nat) (lead : Option Fault)
      (members : List (Member Node)) (tail : Tail)

/-- The place behind the first byte of a value. -/
def behind (start : Option Place) : Option Place :=
  start.map fun p => ⟨p.line, p.column + 1⟩

/-- Values may be nested to this depth when they are read. -/
def maxDepth : Nat := 127

/-- The check before the inside of an array or object is read. -/
def enter (start : Option Place) (depth : Nat) : Except Fault Unit :=
  if depth < maxDepth then .ok () else .error (.grammar .tooDeep (behind start))

namespace Node

/-- The fault of a value of the wrong kind. A value that the text breaks off has its own. -/
def kindFault (wanted : String) : Node → Fault
  | missing start => .grammar .endInValue start
  | broken _ read _ => read
  | null _ stop => ⟨.invalidType .null wanted, stop, []⟩
  | bool b _ stop => ⟨.invalidType (.bool b) wanted, stop, []⟩
  | number (.ok n) _ stop => ⟨.invalidType (.number n) wanted, stop, []⟩
  | number (.error f) _ _ => f
  | string (.ok s) _ stop => ⟨.invalidType (.string s) wanted, stop, []⟩
  | string (.error f) _ _ => f
  | array start _ _ _ _ => ⟨.invalidType .sequence wanted, start, []⟩
  | object start _ _ _ _ => ⟨.invalidType .map wanted, start, []⟩

/-! ## Skipping -/

mutual

def skip : Node → Except Fault Unit
  | .missing start => .error (.grammar .endInValue start)
  | .broken _ _ skipped => .error skipped
  | .array _ _ _ items tail => do skipItems items; skipTail tail
  | .object _ _ _ members tail => do skipMembers members; skipTail tail
  | .null .. | .bool .. | .number .. | .string .. => .ok ()

def skipItems : List (Node × Close) → Except Fault Unit
  | [] => .ok ()
  | (node, _) :: rest => do skip node; skipItems rest

def skipMembers : List (Member Node) → Except Fault Unit
  | [] => .ok ()
  | ⟨_, _, _, .error f, _⟩ :: _ => .error f
  | ⟨_, _, _, .ok node, _⟩ :: rest => do skip node; skipMembers rest

def skipTail : Tail → Except Fault Unit
  | .closed _ => .ok ()
  | .broken _ skipped => .error skipped

end

/-! ## Reading a free value -/

mutual

def toJson : Node → Except Fault Json
  | .missing start => .error (.grammar .endInValue start)
  | .broken _ read _ => .error read
  | .null .. => .ok .null
  | .bool b .. => .ok (.bool b)
  | .number value .. => value.map .number
  | .string value .. => value.map .string
  | .array start depth _ items tail => do
    enter start depth
    .array <$> itemsToJson tail 0 items
  | .object start depth _ members tail => do
    enter start depth
    .object <$> membersToJson tail [] members

def itemsToJson (tail : Tail) (index : Nat) : List (Node × Close) → Except Fault (List Json)
  | [] =>
    match tail with
    | .closed _ => .ok []
    | .broken read _ => .error read
  | (node, _) :: rest => do
    let v ← (toJson node).mapError (·.within (.item index))
    let vs ← itemsToJson tail (index + 1) rest
    .ok (v :: vs)

/-- The members in the order of their names, given those that were read before. -/
def membersToJson (tail : Tail) (done : List (String × Json)) :
    List (Member Node) → Except Fault (List (String × Json))
  | [] =>
    match tail with
    | .closed _ => .ok done
    | .broken read _ => .error (read.within .unnamed)
  | ⟨name, _, _, .error f, _⟩ :: _ => do
    let _ ← name.mapError (·.within .unnamed)
    .error f
  | ⟨name, _, _, .ok node, _⟩ :: rest => do
    let k ← name.mapError (·.within .unnamed)
    let v ← (toJson node).mapError (·.within (.member k))
    membersToJson tail (Json.insert k v done) rest

end

/-! ## Values that were made -/

/-- Closing an array of `count` items behind the item at `index`. -/
def closeMade (count index : Nat) : Close :=
  ⟨none, if index < count then some (.plain (.invalidLength count "fewer elements in array"))
    else none⟩

mutual

def ofJson : Json → Node
  | .null => .null none none
  | .bool b => .bool b none none
  | .number n => .number (.ok n) none none
  | .string s => .string (.ok s) none none
  | .array items => .array none 0 (closeMade items.length 0) (itemsOfJson items.length 1 items)
      (.closed none)
  | .object members => .object none 0 none (membersOfJson members) (.closed none)

def itemsOfJson (count index : Nat) : List Json → List (Node × Close)
  | [] => []
  | v :: rest => (ofJson v, closeMade count index) :: itemsOfJson count (index + 1) rest

def membersOfJson : List (String × Json) → List (Member Node)
  | [] => []
  | (k, v) :: rest => ⟨.ok k, none, ⟨none, none⟩, .ok (ofJson v), none⟩ :: membersOfJson rest

end

end Node
end SessionReplay.Json
