import SessionReplay.Program.Shell.Printf
import SessionReplay.Program.Shell.Token

/-!
# Sums in shell scripts

Part of what stands in for the programs of a host; no result rests on it.

Sums of integers and variables with the operators of a shell. A sum may set variables.

* `Arithmetic.value?`: the value of a sum and the variables that it sets, the last one first; none
  if it is not well formed or divides by zero.
-/

namespace SessionReplay.Shell.Arithmetic

/-- Operators of two operands with their rank; higher ranks bind more tightly. Longer operators
come before those that they begin with. -/
def operators : List (String × Nat) :=
  [("||", 1), ("&&", 2), ("==", 6), ("!=", 6), ("<<", 8), (">>", 8), ("<=", 7), (">=", 7),
   ("|", 3), ("^", 4), ("&", 5), ("<", 7), (">", 7), ("+", 9), ("-", 9), ("*", 10), ("/", 10),
   ("%", 10)]

def ofBool (b : Bool) : Int := if b then 1 else 0

/-- The bits of an integer in 64 places. -/
def bits (n : Int) : BitVec 64 := BitVec.ofInt 64 n

def combine? (op : String) (a b : Int) : Option Int :=
  match op with
  | "||" => some (ofBool (a != 0 || b != 0))
  | "&&" => some (ofBool (a != 0 && b != 0))
  | "|" => some (bits a ||| bits b).toInt
  | "^" => some (bits a ^^^ bits b).toInt
  | "&" => some (bits a &&& bits b).toInt
  | "==" => some (ofBool (a == b))
  | "!=" => some (ofBool (a != b))
  | "<=" => some (ofBool (a ≤ b))
  | ">=" => some (ofBool (a ≥ b))
  | "<" => some (ofBool (a < b))
  | ">" => some (ofBool (a > b))
  | "<<" => some (bits a <<< (b.toNat % 64)).toInt
  | ">>" => some ((bits a).sshiftRight (b.toNat % 64)).toInt
  | "+" => some (a + b)
  | "-" => some (a - b)
  | "*" => some (a * b)
  | "/" => if b = 0 then none else some (a.tdiv b)
  | "%" => if b = 0 then none else some (a.tmod b)
  | _ => none

def skipBlanks (cs : List Char) : List Char :=
  cs.dropWhile fun c => c == ' ' || c == '\t' || c == '\n'

/-- The operator at the front of a text. -/
def operator? (cs : List Char) : Option (String × Nat × List Char) :=
  (operators.find? fun op => op.1.toList.isPrefixOf cs).map fun (op, rank) =>
    (op, rank, cs.drop op.length)

/-! ## Settings -/

/-- The sign of a setting at the front of a text: the operator that comes with it, and what stands
behind it. -/
def setting? (cs : List Char) : Option (String × List Char) :=
  match cs with
  | '=' :: '=' :: _ => none
  | '=' :: rest => some ("", rest)
  | _ =>
    match operator? cs with
    | some (op, _, '=' :: rest) => if settable.contains op then some (op, rest) else none
    | _ => none
where
  settable : List String := ["+", "-", "*", "/", "%", "<<", ">>", "&", "^", "|"]

/-! ## Values -/

/-- A value, the variables that were set, and the rest of the text. -/
abbrev Reading := Int × List (String × Int) × List Char

/-- The value of a variable, which may have been set in the sum. -/
def valueOf (lookup : String → Int) (sets : List (String × Int)) (name : String) : Int :=
  ((sets.find? (·.1 == name)).map (·.2)).getD (lookup name)

mutual

/-- An operand at the front of a text. -/
def operand? (lookup : String → Int) : Nat → List (String × Int) → List Char → Option Reading
  | 0, _, _ => none
  | fuel + 1, sets, cs =>
    match skipBlanks cs with
    | '(' :: rest => do
      let (n, sets, rest) ← sum? lookup fuel 0 sets rest
      match skipBlanks rest with
      | ')' :: rest => some (n, sets, rest)
      | _ => none
    | '-' :: rest => do
      let (n, sets, rest) ← operand? lookup fuel sets rest
      some (-n, sets, rest)
    | '+' :: rest => operand? lookup fuel sets rest
    | '!' :: rest => do
      let (n, sets, rest) ← operand? lookup fuel sets rest
      some (ofBool (n == 0), sets, rest)
    | '~' :: rest => do
      let (n, sets, rest) ← operand? lookup fuel sets rest
      some (-n - 1, sets, rest)
    | c :: rest =>
      let cs := c :: rest
      if c.isDigit then
        let (n, rest) := readNumber cs
        some (n, sets, rest)
      else
        let name := cs.takeWhile isNameChar
        let behind := cs.drop name.length
        let name := String.ofList name
        if name.isEmpty then none
        else
          match setting? (skipBlanks behind) with
          | none => some (valueOf lookup sets name, sets, behind)
          | some (op, rest) => do
            let (n, sets, rest) ← sum? lookup fuel 0 sets rest
            let n ← if op.isEmpty then some n else combine? op (valueOf lookup sets name) n
            some (n, (name, n) :: sets, rest)
    | [] => none

/-- A sum of operators above a rank; at rank zero, with a choice behind it. -/
def sum? (lookup : String → Int) : Nat → Nat → List (String × Int) → List Char → Option Reading
  | 0, _, _, _ => none
  | fuel + 1, rank, sets, cs => do
    let (n, sets, rest) ← operand? lookup fuel sets cs
    let (n, sets, rest) ← sumFrom? lookup fuel rank n sets rest
    match rank, skipBlanks rest with
    | 0, '?' :: rest => choice? lookup fuel n sets rest
    | _, _ => some (n, sets, rest)

def sumFrom? (lookup : String → Int) :
    Nat → Nat → Int → List (String × Int) → List Char → Option Reading
  | 0, _, _, _, _ => none
  | fuel + 1, rank, n, sets, cs =>
    match operator? (skipBlanks cs) with
    | none => some (n, sets, cs)
    | some (op, opRank, rest) =>
      if opRank ≤ rank then some (n, sets, cs)
      else do
        let (m, sets, rest) ← sum? lookup fuel opRank sets rest
        let n ← combine? op n m
        sumFrom? lookup fuel rank n sets rest

/-- One of two sums behind a question mark; what the other one sets is not set. -/
def choice? (lookup : String → Int) :
    Nat → Int → List (String × Int) → List Char → Option Reading
  | 0, _, _, _ => none
  | fuel + 1, n, sets, cs => do
    let (yes, yesSets, rest) ← sum? lookup fuel 0 sets cs
    match skipBlanks rest with
    | ':' :: rest =>
      let (no, noSets, rest) ← sum? lookup fuel 0 sets rest
      if n = 0 then some (no, noSets, rest) else some (yes, yesSets, rest)
    | _ => none

end

/-- The empty sum is zero. -/
def value? (lookup : String → Int) (text : String) : Option (Int × List (String × Int)) := do
  let cs := text.toList
  if (skipBlanks cs).isEmpty then some (0, [])
  else
    let (n, sets, rest) ← sum? lookup (4 * cs.length + 4) 0 [] cs
    if (skipBlanks rest).isEmpty then some (n, sets) else none

end SessionReplay.Shell.Arithmetic
