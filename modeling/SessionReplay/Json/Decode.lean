import SessionReplay.Json.Reader

/-!
# Reading values of a known kind

Readers for the kinds of values that records are made of. A value of another kind is a fault with
the place behind a scalar, or before an array or object.

* `Node.asString`, `asBool`, `asDouble`, `asWord`, `asInt32`.
* `Node.asOption`, `Node.asList`, `Node.asListOrNull`.
* `Node.asName`: one of a fixed list of names.
-/

namespace SessionReplay.Json.Node

def asBool : Node → Except Fault Bool
  | bool b _ _ => .ok b
  | node => .error (node.kindFault "a boolean")

def asString : Node → Except Fault String
  | string value _ _ => value
  | node => .error (node.kindFault "a string")

/-- A text that `parse` understands; `wanted` says what it is. -/
def asParsed {α : Type} (wanted : String) (parse : String → Except String α) :
    Node → Except Fault α
  | string value _ stop => do
    let s ← value
    match parse s with
    | .ok a => .ok a
    | .error reason => .error ⟨.refused reason, stop, []⟩
  | node => .error (node.kindFault wanted)

def asDouble : Node → Except Fault Double
  | number value _ _ => value.map Number.toDouble
  | node => .error (node.kindFault "f64")

/-- An integer between two bounds. -/
def asInteger (wanted : String) (low high : Int) : Node → Except Fault Int
  | number value _ stop => do
    let n ← value
    match n.toInt? with
    | none => .error ⟨.invalidType (.number n) wanted, stop, []⟩
    | some i =>
      if low ≤ i ∧ i ≤ high then .ok i else .error ⟨.invalidValue (.number n) wanted, stop, []⟩
  | node => .error (node.kindFault wanted)

/-- A natural number of 64 bits. -/
def asWord (wanted : String) (node : Node) : Except Fault UInt64 :=
  (fun i : Int => i.toNat.toUInt64) <$> node.asInteger wanted 0 (UInt64.size - 1 : Nat)

/-- A signed integer of 32 bits. -/
def asInt32 (node : Node) : Except Fault Int32 :=
  Int32.ofInt <$> node.asInteger "i32" Int32.minValue.toInt Int32.maxValue.toInt

def asOption {α : Type} (read : Node → Except Fault α) : Node → Except Fault (Option α)
  | null _ _ => .ok none
  | node => some <$> read node

/-- The items in order. A fault without a place gets the one where closing the array behind its
item would end. -/
def readEach {α : Type} (read : Node → Except Fault α) (tail : Tail) (index : Nat) :
    List (Node × Close) → Except Fault (List α)
  | [] =>
    match tail with
    | .closed _ => .ok []
    | .broken f _ => .error f
  | (node, close) :: rest => do
    let a ← (read node).mapError fun f => (f.placedAt close.stop).within (.item index)
    let as ← readEach read tail (index + 1) rest
    .ok (a :: as)

def asList {α : Type} (read : Node → Except Fault α) : Node → Except Fault (List α)
  | array start depth _ items tail => do
    enter start depth
    readEach read tail 0 items
  | node => .error (node.kindFault "a sequence")

/-- A list, where `null` stands for the empty one. -/
def asListOrNull {α : Type} (read : Node → Except Fault α) (node : Node) :
    Except Fault (List α) :=
  (·.getD []) <$> node.asOption (asList read)

/-! ## Names -/

def lookUp {α : Type} (table : List (String × α)) (name : String) (place : Option Place) :
    Except Fault α :=
  match table.find? (·.1 == name) with
  | some (_, a) => .ok a
  | none => .error ⟨.unknownVariant name (table.map (·.1)), place, []⟩

/-- `null`, which is all that may stand under a name. -/
def asUnit : Node → Except Fault Unit
  | null _ _ => .ok ()
  | node => .error (node.kindFault "unit")

/-- The fault of an object that was made and does not hold one member. -/
def singleMember : Fault := .plain (.invalidValue .map "map with a single key")

def start? : Node → Option Place
  | missing start | broken start _ _ | null start _ | bool _ start _ | number _ start _
  | string _ start _ | array start _ _ _ _ | object start _ _ _ _ => start

/-- One of the names of a table, as a text or as the only member of an object that holds nothing
else. -/
def asName {α : Type} (table : List (String × α)) : Node → Except Fault α
  | string value _ stop => do
    let s ← value
    lookUp table s stop
  | object start depth lead members tail => do
    enter start depth
    if start.isNone && members.length != 1 then .error singleMember
    match members with
    | [] =>
      match lead, tail with
      | some f, _ => .error f
      | none, .broken f _ => .error f
      | none, .closed _ => .error singleMember
    | ⟨name, stop, _, value, next⟩ :: others =>
      let s ← name
      let a ← lookUp table s stop
      let node ← value
      node.asUnit
      match others, tail with
      | [], .closed _ => .ok a
      | [], .broken f _ =>
        if f.cause = .grammar .endInObject then .error f else .error (.grammar .expectedValue next)
      | _, _ => .error (.grammar .expectedValue next)
  | missing start => .error (.grammar .endInValue start)
  | broken none read _ => .error read
  | node =>
    match node.start? with
    | some start => .error (.grammar .expectedValue (behind (some start)))
    | none => .error (node.kindFault "string or map")

end SessionReplay.Json.Node
