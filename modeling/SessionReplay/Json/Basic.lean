import SessionReplay.Decimal.Double

/-!
# JSON values

* `Number`: a number as a document distinguishes it, a natural number or a negative integer of
  64 bits, or a double.
* `Json`: a value. The members of an object that was read stand in the order of their names,
  each name once; `Json.insert` keeps that.
-/

namespace SessionReplay

inductive Number where
  | natural (n : UInt64)
  /-- The number `-(n + 1)`. -/
  | negative (n : Fin (Nat.pow 2 63))
  | real (x : Double)
  deriving DecidableEq, Repr, Inhabited

namespace Number

/-- An integer inside the 64-bit ranges. -/
def ofInt? : Int → Option Number
  | .ofNat n => if n < UInt64.size then some (.natural n.toUInt64) else none
  | .negSucc n => if h : n < Nat.pow 2 63 then some (.negative ⟨n, h⟩) else none

def toInt? : Number → Option Int
  | .natural n => some n.toNat
  | .negative n => some (-(n.val + 1 : Int))
  | .real _ => none

/-- The nearest double. -/
def toDouble : Number → Double
  | .natural n => .ofInt n.toNat
  | .negative n => .ofInt (-(n.val + 1 : Int))
  | .real x => x

end Number

inductive Json where
  | null
  | bool (b : Bool)
  | number (n : Number)
  | string (s : String)
  | array (items : List Json)
  | object (members : List (String × Json))
  deriving Repr, Inhabited, BEq

namespace Json

/-- The members with one set: names in order, an earlier value of the name replaced. -/
def insert (name : String) (value : Json) : List (String × Json) → List (String × Json)
  | [] => [(name, value)]
  | (k, v) :: rest =>
    if name < k then (name, value) :: (k, v) :: rest
    else if name = k then (name, value) :: rest
    else (k, v) :: insert name value rest

def member? (name : String) (members : List (String × Json)) : Option Json :=
  (members.find? (·.1 == name)).map (·.2)

def get? (v : Json) (name : String) : Option Json :=
  match v with
  | .object members => member? name members
  | _ => none

def asString? : Json → Option String
  | .string s => some s
  | _ => none

def isNull : Json → Bool
  | .null => true
  | _ => false

def ofWord (n : UInt64) : Json := .number (.natural n)

/-- An integer of 32 bits. -/
def ofInt32 (n : Int32) : Json :=
  match Number.ofInt? n.toInt with
  | some n => .number n
  | none => .null

def ofOption {α : Type} (write : α → Json) : Option α → Json
  | none => .null
  | some a => write a

end Json
end SessionReplay
