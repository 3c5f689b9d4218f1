import SessionReplay.Json.Lexeme

/-!
# Reading a text as a document

* `Document.ofText`: the annotated tree of a text and the fault of what stands behind it.
* `Document.toJson`: the value of a text.

The recursion is bounded by a count of steps: of any three steps one takes a character, so three
times the length of the text, and a few for its end, is never used up.
-/

namespace SessionReplay.Json

namespace Cursor

/-- The attempt to close an array at the cursor. -/
def closeList (c : Cursor) : Close :=
  let c := c.skipSpace
  match c.rest with
  | [] => ⟨some c.place, some (c.peekFault .endInList)⟩
  | ']' :: _ => ⟨some c.next.place, none⟩
  | ',' :: _ =>
    let c := c.next.skipSpace
    match c.rest with
    | ']' :: _ => ⟨some c.place, some (c.peekFault .trailingComma)⟩
    | _ => ⟨some c.place, some (c.peekFault .trailingCharacters)⟩
  | _ => ⟨some c.place, some (c.peekFault .trailingCharacters)⟩

/-- The attempt to close an object at the cursor. -/
def closeObject (c : Cursor) : Close :=
  let c := c.skipSpace
  match c.rest with
  | [] => ⟨some c.place, some (c.peekFault .endInObject)⟩
  | '}' :: _ => ⟨some c.next.place, none⟩
  | ',' :: _ => ⟨some c.place, some (c.peekFault .trailingComma)⟩
  | _ => ⟨some c.place, some (c.peekFault .trailingCharacters)⟩

/-- Whether the next thing is a name. -/
def startsName (c : Cursor) : Bool := c.skipSpace.rest.head? == some '"'

end Cursor

/-- A part of the tree and the cursor behind it, if the text goes on. -/
structure Part (α : Type) where
  value : α
  after : Option Cursor

namespace Part

def stuck {α : Type} (value : α) : Part α := ⟨value, none⟩

/-- The text breaks off inside an array or object, with one fault for all. -/
def broken {α : Type} (c : Cursor) (g : Grammar) : Part (List α × Tail) :=
  stuck ([], .broken (c.peekFault g) (c.peekFault g))

/-- As `broken`, where a reader and one who skips are told different things. -/
def brokenEither {α : Type} (c : Cursor) (read skipped : Grammar) : Part (List α × Tail) :=
  stuck ([], .broken (c.peekFault read) (c.peekFault skipped))

end Part

/-- One of the three names, whose first letter is at the cursor. -/
def readNamed (c : Cursor) (more : List Char) (node : Option Place → Node) : Part Node :=
  match readName more c.next with
  | .ok after => ⟨node (some after.place), some after⟩
  | .error f => .stuck (.broken (some c.place) f f)

/-- A number at the cursor; `first` stands behind its sign. -/
def readNumeral (c first : Cursor) (negative : Bool) : Part Node :=
  let value := readNumber negative first
  match skipNumber first with
  | .ok after => ⟨.number (value.map (·.1)) (some c.place) (some after.place), some after⟩
  | .error skipped =>
    match value with
    | .error read => .stuck (.broken (some c.place) read skipped)
    | .ok _ => .stuck (.broken (some c.place) skipped skipped)

/-- The text whose opening quote is at the cursor: its value, or the faults that end it. -/
def readQuoted (c : Cursor) : Except (Fault × Fault) (Except Fault String × Cursor) :=
  let value := readString [] c.next.place c.next.rest
  match skipString c.next.place c.next.rest with
  | .ok after => .ok (value.map (·.1), after)
  | .error skipped =>
    match value with
    | .error read => .error (read, skipped)
    | .ok _ => .error (skipped, skipped)

mutual

/-- The value at the cursor, inside `depth` arrays and objects. -/
def readNode : Nat → Nat → Cursor → Part Node
  | 0, _, c => .stuck (.missing (some c.place))
  | fuel + 1, depth, c =>
    let c := c.skipSpace
    let start := some c.place
    match c.rest with
    | [] => .stuck (.missing start)
    | 'n' :: _ => readNamed c ['u', 'l', 'l'] (.null start)
    | 't' :: _ => readNamed c ['r', 'u', 'e'] (.bool true start)
    | 'f' :: _ => readNamed c ['a', 'l', 's', 'e'] (.bool false start)
    | '"' :: _ =>
      match readQuoted c with
      | .ok (value, after) => ⟨.string value start (some after.place), some after⟩
      | .error (read, skipped) => .stuck (.broken none read skipped)
    | '[' :: _ =>
      let part := readItems fuel (depth + 1) true c.next
      ⟨.array start depth c.next.closeList part.value.1 part.value.2, part.after⟩
    | '{' :: _ =>
      let part := readMembers fuel (depth + 1) true c.next
      let lead :=
        if c.next.startsName then none
        else some ((readNode fuel (depth + 1) c.next).value.kindFault "variant identifier")
      ⟨.object start depth lead part.value.1 part.value.2, part.after⟩
    | '-' :: _ => readNumeral c c.next true
    | x :: _ =>
      if x.isDigit then readNumeral c c false
      else .stuck (.broken start (c.peekFault .expectedValue) (c.peekFault .expectedValue))

/-- The items of an array up to its end; `first` where none was read yet. -/
def readItems : Nat → Nat → Bool → Cursor → Part (List (Node × Close) × Tail)
  | 0, _, _, c => .broken c .endInList
  | fuel + 1, depth, first, c =>
    let c := c.skipSpace
    match c.rest with
    | [] => .broken c .endInList
    | ']' :: _ => ⟨([], .closed (some c.next.place)), some c.next⟩
    | x :: _ =>
      if first then readItem fuel depth c
      else if x = ',' then
        let c := c.next.skipSpace
        match c.rest with
        | [] => .broken c .endInValue
        | ']' :: _ => .brokenEither c .trailingComma .expectedValue
        | _ => readItem fuel depth c
      else .broken c .expectedListCommaOrEnd

/-- The item at the cursor and those behind it. -/
def readItem : Nat → Nat → Cursor → Part (List (Node × Close) × Tail)
  | 0, _, c => .broken c .endInList
  | fuel + 1, depth, c =>
    let item := readNode fuel depth c
    match item.after with
    | none => .stuck ([(item.value, ⟨none, none⟩)], .closed none)
    | some after =>
      let part := readItems fuel depth false after
      ⟨((item.value, after.closeList) :: part.value.1, part.value.2), part.after⟩

/-- The members of an object up to its end; `first` where none was read yet. -/
def readMembers : Nat → Nat → Bool → Cursor → Part (List (Member Node) × Tail)
  | 0, _, _, c => .broken c .endInObject
  | fuel + 1, depth, first, c =>
    let c := c.skipSpace
    match c.rest with
    | [] => .broken c .endInObject
    | '}' :: _ => ⟨([], .closed (some c.next.place)), some c.next⟩
    | x :: _ =>
      if first then
        if x = '"' then readMember fuel depth c else .broken c .keyNotString
      else if x = ',' then
        let c := c.next.skipSpace
        match c.rest with
        | [] => .brokenEither c .endInValue .endInObject
        | '"' :: _ => readMember fuel depth c
        | '}' :: _ => .brokenEither c .trailingComma .keyNotString
        | _ => .broken c .keyNotString
      else .broken c .expectedObjectCommaOrEnd

/-- The member whose name begins at the cursor and those behind it. -/
def readMember : Nat → Nat → Cursor → Part (List (Member Node) × Tail)
  | 0, _, c => .broken c .endInObject
  | fuel + 1, depth, c =>
    match readQuoted c with
    | .error (read, skipped) => .stuck ([], .broken read skipped)
    | .ok (name, after) =>
      let member (value : Except Fault Node) (next : Option Place) : Member Node :=
        ⟨name, some after.place, after.closeObject, value, next⟩
      let colon := after.skipSpace
      match colon.rest with
      | [] => .stuck ([member (.error (colon.peekFault .endInObject)) none], .closed none)
      | ':' :: _ =>
        let value := readNode fuel depth colon.next
        match value.after with
        | none => .stuck ([member (.ok value.value) none], .closed none)
        | some behind =>
          let part := readMembers fuel depth false behind
          ⟨(member (.ok value.value) (some behind.skipSpace.place) :: part.value.1, part.value.2),
            part.after⟩
      | _ => .stuck ([member (.error (colon.peekFault .expectedColon)) none], .closed none)

end

end Json

/-- A text that was read: its value and the fault of what stands behind the value. -/
structure Document where
  root : Json.Node
  trailing : Option Json.Fault

namespace Document

open Json

def ofText (text : String) : Document :=
  let chars := text.toList
  let part := readNode (3 * chars.length + 3) 0 ⟨chars, 1, 0⟩
  let trailing := part.after.bind fun c =>
    let c := c.skipSpace
    if c.rest.isEmpty then none else some (c.peekFault .trailingCharacters)
  ⟨part.value, trailing⟩

/-- What a reader makes of the value, if nothing stands behind it. -/
def decode {α : Type} (read : Node → Except Fault α) (d : Document) : Except Fault α := do
  let v ← read d.root
  match d.trailing with
  | some f => .error f
  | none => .ok v

end Document

namespace Json

/-- A text read as the kind of value that `read` knows. -/
def decodeText {α : Type} (read : Node → Except Fault α) (text : String) : Except Fault α :=
  (Document.ofText text).decode read

/-- A text read as a free value. -/
def parse (text : String) : Except Fault Json := decodeText Node.toJson text

/-- A value read as the kind that `read` knows. -/
def decodeValue {α : Type} (read : Node → Except Fault α) (v : Json) : Except Fault α :=
  read (.ofJson v)

end Json
end SessionReplay
