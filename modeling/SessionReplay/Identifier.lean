/-!
# Identifiers

Numbers of 128 bits that name jobs, written as 32 hexadecimal digits in five groups.

* `Identifier.text`: small letters, a hyphen between groups.
* `Identifier.parse?`: the hyphenated form, also in braces or behind `urn:uuid:`, and the bare
  digits.
* `Identifier.problem`: what is wrong with any other text.
* `Identifier.read`: the identifier in a text, or what is wrong with it.
-/

namespace SessionReplay

structure Identifier where
  value : Nat
  deriving DecidableEq, Repr, Inhabited

namespace Identifier

def digit? (c : Char) : Option Nat :=
  if c.isDigit then some (c.toNat - 48)
  else if 'a' ≤ c ∧ c ≤ 'f' then some (c.toNat - 87)
  else if 'A' ≤ c ∧ c ≤ 'F' then some (c.toNat - 55)
  else none

/-- The lengths of the groups. -/
def groups : List Nat := [8, 4, 4, 4, 12]

/-- The number of the digits. -/
def digitCount : Nat := 32

/-- The size of the digits with the hyphens between the groups. -/
def hyphenatedSize : Nat := 36

/-- Digits cut into groups of these lengths. -/
def splitGroups : List Nat → List Char → List String
  | [], _ => []
  | n :: more, cs => String.ofList (cs.take n) :: splitGroups more (cs.drop n)

def text (i : Identifier) : String :=
  let digits := Nat.toDigits 16 i.value
  let digits := List.replicate (digitCount - digits.length) '0' ++ digits
  String.intercalate "-" (splitGroups groups digits)

/-! ## Reading -/

/-- The pieces between the hyphens: one more than there are hyphens. -/
def splitHyphens : List Char → List (List Char)
  | [] => [[]]
  | '-' :: rest => [] :: splitHyphens rest
  | c :: rest =>
    match splitHyphens rest with
    | [] => [[c]]
    | piece :: more => (c :: piece) :: more

/-- What may stand before the hyphenated form, in letters of either size. -/
def urnPrefix : List Char := "urn:uuid:".toList

/-- The inside of braces, or what stands behind `urn:uuid:`, and the index where it begins. -/
def unwrap? (cs : List Char) : Option (List Char × Nat) :=
  if cs.head? = some '\x7b' ∧ cs.drop 1 ≠ [] ∧ cs.getLast? = some '\x7d' then
    some ((cs.drop 1).dropLast, 1)
  else if (cs.take urnPrefix.length).map Char.toLower = urnPrefix then
    some (cs.drop urnPrefix.length, urnPrefix.length)
  else none

/-- The number that hexadecimal digits make. -/
def value? (cs : List Char) : Option Nat :=
  cs.foldlM (fun n c => (digit? c).map (n * 16 + ·)) 0

/-- The identifier in the groups of the hyphenated form. -/
def ofGroups? (pieces : List (List Char)) : Option Identifier :=
  if pieces.map List.length = groups then (value? pieces.flatten).map .mk else none

def parse? (cs : List Char) : Option Identifier :=
  match unwrap? cs with
  | some (inner, _) => ofGroups? (splitHyphens inner)
  | none =>
    if cs.length = digitCount then (value? cs).map .mk else ofGroups? (splitHyphens cs)

/-! ## What is wrong with a text -/

inductive Problem where
  | character (found : Char) (index : Nat)
  | length (found : Nat)
  | groupCount (found : Nat)
  | groupLength (group wanted found : Nat)
  deriving DecidableEq, Repr

def Problem.message : Problem → String
  | character found index => "invalid character: found `" ++ found.toString ++ s!"` at {index}"
  | length found => s!"invalid length: found {found}"
  | groupCount found => s!"invalid group count: expected 5, found {found}"
  | groupLength group wanted found =>
    s!"invalid group length in group {group}: expected {wanted}, found {found}"

def isIdentifierChar (c : Char) : Bool := (digit? c).isSome || c == '-'

/-- The first group that is too short or too long: its number, the length it should have and the
one it has. -/
def wrongGroup? (pieces : List (List Char)) : Option (Nat × Nat × Nat) :=
  (pieces.zip groups).zipIdx.findSome? fun ((piece, wanted), group) =>
    if piece.length = wanted then none else some (group, wanted, piece.length)

/-- What is wrong with a text, looked at without regard for its length as a whole: a character that
has no place in it, else the number of its groups, else the length of one of them. The last group is
taken to reach from its usual place in a bare text to the end of this one. -/
def problemIn (cs : List Char) : Problem :=
  let (inner, offset) := (unwrap? cs).getD (cs, 0)
  let pieces := splitHyphens inner
  match inner.findIdx? (!isIdentifierChar ·) with
  | some index => .character (inner.getD index '-') (offset + index)
  | none =>
    if pieces.length = 1 ∧ offset = 0 then .length cs.length
    else if pieces.length ≠ groups.length then .groupCount pieces.length
    else
      match wrongGroup? (pieces.take 4) with
      | some (group, wanted, found) => .groupLength group wanted found
      | none => .groupLength 4 12 (cs.length - 24)

/-- What is wrong with a text that is not an identifier. Where something of the size of the
hyphenated form is in braces or behind `urn:uuid:`, it is looked at alone. -/
def problem (cs : List Char) : Problem :=
  match unwrap? cs with
  | some (inner, _) =>
    if (String.ofList inner).utf8ByteSize = hyphenatedSize then problemIn inner else problemIn cs
  | none => problemIn cs

def read (s : String) : Except Problem Identifier :=
  match parse? s.toList with
  | some i => .ok i
  | none => .error (problem s.toList)

end Identifier
end SessionReplay
