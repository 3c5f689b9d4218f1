/-!
# Socket addresses

Which texts are the address and port that a server can listen on.

* `isSocketAddress`: an address of the fourth version with a port, or one of the sixth version in
  brackets, which may have the number of a zone.

Every recogniser takes its part from the front of a text and returns the rest.
-/

namespace SessionReplay.Settings

/-- Takes a part from the front of a text. -/
abbrev Take := List Char → Option (List Char)

def takeChar (c : Char) : Take
  | [] => none
  | x :: rest => if x = c then some rest else none

def hexDigit? (c : Char) : Option Nat :=
  if c.isDigit then some (c.toNat - 48)
  else if 'a' ≤ c ∧ c ≤ 'f' then some (c.toNat - 87)
  else if 'A' ≤ c ∧ c ≤ 'F' then some (c.toNat - 55)
  else none

def digitIn (base : Nat) (c : Char) : Option Nat := (hexDigit? c).filter (· < base)

def valueIn (base : Nat) (ds : List Char) : Nat :=
  ds.foldl (fun n c => base * n + (digitIn base c).getD 0) 0

/-- A number below `limit`, of any number of digits. -/
def takeNumber (limit : Nat) : Take := fun cs =>
  let ds := cs.takeWhile Char.isDigit
  if ds.isEmpty || limit ≤ valueIn 10 ds then none else some (cs.drop ds.length)

/-- A number below 256 without zeros before it. -/
def takeByte : Take := fun cs =>
  let ds := cs.takeWhile Char.isDigit
  if ds.isEmpty || 3 < ds.length || 256 ≤ valueIn 10 ds then none
  else if 1 < ds.length && ds.head? == some '0' then none
  else some (cs.drop ds.length)

/-- Up to four hexadecimal digits. -/
def takeGroup : Take := fun cs =>
  let ds := cs.takeWhile fun c => (hexDigit? c).isSome
  if ds.isEmpty || 4 < ds.length then none else some (cs.drop ds.length)

def takeVersion4 : Take := fun cs => do
  let cs ← takeByte cs
  let cs ← takeByte (← takeChar '.' cs)
  let cs ← takeByte (← takeChar '.' cs)
  takeByte (← takeChar '.' cs)

/-- A part of an address, with the separator that parts behind the first one have. -/
def takeSeparated (index : Nat) (take : Take) : Take := fun cs =>
  if index = 0 then take cs else (takeChar ':' cs).bind take

/-- The groups of an address, of which `left` may follow, and whether the last two were written as
an address of the fourth version. -/
def takeGroups (limit : Nat) : Nat → Nat → List Char → Nat × Bool × List Char
  | _, 0, cs => (limit, false, cs)
  | index, left + 1, cs =>
    match if index + 1 < limit then takeSeparated index takeVersion4 cs else none with
    | some rest => (index + 2, true, rest)
    | none =>
      match takeSeparated index takeGroup cs with
      | some rest => takeGroups limit (index + 1) left rest
      | none => (index, false, cs)

/-- Eight groups, or fewer around `::`. -/
def takeVersion6 : Take := fun cs =>
  let (head, version4, cs) := takeGroups 8 0 8 cs
  if head = 8 then some cs
  else if version4 then none
  else do
    let cs ← takeChar ':' (← takeChar ':' cs)
    let limit := 8 - (head + 1)
    some (takeGroups limit 0 limit cs).2.2

def takePort : Take := fun cs => (takeChar ':' cs).bind (takeNumber 65536)

def takeZone : Take := fun cs => (takeChar '%' cs).bind (takeNumber 4294967296)

def takeBracketed : Take := fun cs => do
  let cs ← takeVersion6 (← takeChar '[' cs)
  takeChar ']' ((takeZone cs).getD cs)

def isSocketAddress (s : String) : Bool :=
  let cs := s.toList
  (takeVersion4 cs).bind takePort == some [] || (takeBracketed cs).bind takePort == some []

end SessionReplay.Settings
