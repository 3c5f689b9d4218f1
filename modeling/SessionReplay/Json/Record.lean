import SessionReplay.Json.Decode

/-!
# Reading records

A record is written as an object, and may also be read from an array that holds its fields in the
order of their declaration.

* `Field`: the name of a field, its reader, and what its absence means.
* `Fields`: the fields of a record in order, put together with `<*>`.
* `Fields.decode`: the reader for a record. Members are looked at in the order of the document;
  a member that is not a field is skipped, and a field that comes twice is a fault.
* `Fields.decodeWith`: a record that holds the members of another one among its own.
-/

namespace SessionReplay.Json

/-- What it means that a field is not there. -/
inductive Absence (α : Type) where
  | fault
  /-- The value of a member that is missing from an object; an array has to hold the item. -/
  | unnamed (value : α)
  | default (value : α)

/-- The values a record is read from. -/
inductive Slots where
  | members (nodes : List (String × Node))
  | items (record : String) (names : List String) (nodes : List (Node × Close)) (tail : Tail)

/-- The way a message names a record. -/
def recordText (record : String) : String := "struct " ++ record

/-- The way a message names a record and the number of its fields. -/
def recordSize (record : String) (count : Nat) : String :=
  recordText record ++ s!" with {count} element" ++ (if count = 1 then "" else "s")

namespace Slots

/-- The value of the field `name`. -/
def fetch {α : Type} (name : String) (read : Node → Except Fault α) (absence : Absence α) :
    Slots → Except Fault α
  | members nodes =>
    match nodes.find? (·.1 == name) with
    | some (_, node) => (read node).mapError (·.within (.member name))
    | none =>
      match absence with
      | .fault => .error (.plain (.missingField name))
      | .unnamed a | .default a => .ok a
  | items record names nodes tail =>
    let index := names.idxOf name
    match nodes[index]? with
    | some (node, close) =>
      (read node).mapError fun f => (f.placedAt close.stop).within (.item index)
    | none =>
      match tail with
      | .broken f _ => .error f
      | .closed _ =>
        match absence with
        | .default a => .ok a
        | .fault | .unnamed _ =>
          .error (.plain (.invalidLength index (recordSize record names.length)))

end Slots

/-- The fields of a record: their names in the order of declaration, the check of the value that
stands under a name, and the record itself. -/
structure Fields (α : Type) where
  names : List String
  check : String → Option (Node → Except Fault Unit)
  build : Slots → Except Fault α

namespace Fields

instance : Functor Fields where
  map f fs := ⟨fs.names, fs.check, fun s => f <$> fs.build s⟩

instance : Seq Fields where
  seq fs gs :=
    let gs := gs ()
    ⟨fs.names ++ gs.names, fun name => fs.check name <|> gs.check name,
      fun s => do
        let f ← fs.build s
        let a ← gs.build s
        .ok (f a)⟩

def field {α : Type} (name : String) (read : Node → Except Fault α) (absence : Absence α) :
    Fields α :=
  ⟨[name], fun n => if n = name then some fun node => (fun _ => ()) <$> read node else none,
    Slots.fetch name read absence⟩

/-- A field that has to be there. -/
def required {α : Type} (name : String) (read : Node → Except Fault α) : Fields α :=
  field name read .fault

def withDefault {α : Type} (name : String) (read : Node → Except Fault α) (value : α) :
    Fields α :=
  field name read (.default value)

/-- A field that may be missing or `null`. -/
def optional {α : Type} (name : String) (read : Node → Except Fault α) : Fields (Option α) :=
  withDefault name (Node.asOption read) none

/-- A field that may be `null`, and that may be missing from an object. -/
def nullable {α : Type} (name : String) (read : Node → Except Fault α) : Fields (Option α) :=
  field name (Node.asOption read) (.unnamed none)

/-- The members that are fields, each with a value that passed its check, or the first fault in
the order of the document. -/
def scan {α : Type} (fs : Fields α) (seen : List (String × Node)) :
    List (Member Node) → Except Fault (List (String × Node))
  | [] => .ok seen.reverse
  | ⟨name, _, close, value, _⟩ :: rest => do
    let k ← name.mapError (·.within .unnamed)
    match fs.check k with
    | none =>
      let node ← value
      node.skip.mapError (·.within (.member k))
      scan fs seen rest
    | some check =>
      if seen.any (·.1 == k) then .error ((Fault.plain (.duplicateField k)).placedAt close.stop)
      else
        let node ← value
        (check node).mapError (·.within (.member k))
        scan fs ((k, node) :: seen) rest

/-- Where reading an array of `count` fields leaves off. -/
def closeAfter (count : Nat) (first : Close) (items : List (Node × Close)) : Close :=
  match (items.take count).getLast? with
  | some (_, close) => close
  | none => first

/-- The record in a value; `record` is its name in messages. -/
def decode {α : Type} (record : String) (fs : Fields α) : Node → Except Fault α
  | .object start depth _ members tail => do
    enter start depth
    let nodes ← fs.scan [] members
    match tail with
    | .broken f _ => .error (f.within .unnamed)
    | .closed stop => (fs.build (.members nodes)).mapError (·.placedAt stop)
  | .array start depth first items tail => do
    enter start depth
    let close := closeAfter fs.names.length first items
    let a ← (fs.build (.items record fs.names items tail)).mapError (·.placedAt close.stop)
    match close.fault with
    | some f => .error f
    | none => .ok a
  | node => .error (node.kindFault (recordText record))

/-! ## Records inside records

The members of one record may stand among those of another. They are collected first, as values
that are sound, and read when the outer record is complete; they have no places of their own. -/

/-- The members that are fields and, apart, those that are not. -/
def scanBoth {α : Type} (fs : Fields α) (seen others : List (String × Node)) :
    List (Member Node) → Except Fault (List (String × Node) × List (String × Node))
  | [] => .ok (seen.reverse, others.reverse)
  | ⟨name, _, close, value, _⟩ :: rest => do
    let k ← name.mapError (·.within .unnamed)
    match fs.check k with
    | none =>
      let node ← value
      let _ ← node.toJson.mapError (·.within (.member k))
      scanBoth fs seen ((k, node) :: others) rest
    | some check =>
      if seen.any (·.1 == k) then .error ((Fault.plain (.duplicateField k)).placedAt close.stop)
      else
        let node ← value
        (check node).mapError (·.within (.member k))
        scanBoth fs ((k, node) :: seen) others rest

/-- The collected members that are fields of the inner record. -/
def scanCollected {α : Type} (fs : Fields α) (seen : List (String × Node)) :
    List (String × Node) → Except Fault (List (String × Node))
  | [] => .ok seen.reverse
  | (k, node) :: rest =>
    match fs.check k with
    | none => scanCollected fs seen rest
    | some check =>
      if seen.any (·.1 == k) then .error (.plain (.duplicateField k))
      else do
        check node
        scanCollected fs ((k, node) :: seen) rest

def decodeCollected {α : Type} (fs : Fields α) (members : List (String × Node)) :
    Except Fault α := do
  let nodes ← scanCollected fs [] members
  fs.build (.members nodes)

/-- A record with the members of another one among its own; it is only read from an object. -/
def decodeWith {α β : Type} (record : String) (outer : Fields α) (inner : Fields β) :
    Node → Except Fault (α × β)
  | .object start depth _ members tail => do
    enter start depth
    let (nodes, others) ← outer.scanBoth [] [] members
    match tail with
    | .broken f _ => .error (f.within .unnamed)
    | .closed stop =>
      let a ← (outer.build (.members nodes)).mapError (·.placedAt stop)
      let b ← (inner.decodeCollected others).mapError fun f => ⟨f.cause, stop, []⟩
      .ok (a, b)
  | node => .error (node.kindFault (recordText record))

end Fields
end SessionReplay.Json
