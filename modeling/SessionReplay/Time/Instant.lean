import SessionReplay.Text.Blank
import SessionReplay.Time.Calendar

/-!
# Instants

A point of time in UTC, to the nanosecond, and its texts.

* `Instant`: seconds since 1970 and nanoseconds. A leap second is the second before it with a
  thousand million nanoseconds more.
* `Instant.text`: the date and time with `Z`, with as many fraction digits as it takes in steps of
  three; `Instant.millisText` always has three.
* `Instant.read`, `Instant.readStrict`: the texts with an offset that are understood. The strict
  form has fixed widths and no blanks.
-/

namespace SessionReplay

structure Instant where
  seconds : Int
  nanos : Nat
  deriving DecidableEq, Repr, Inhabited

namespace Instant

/-! ## Writing -/

def padded (width n : Nat) : String :=
  let digits := toString n
  String.ofList (List.replicate (width - digits.length) '0') ++ digits

/-- A year has four digits, and a sign where it needs more or is negative. -/
def yearText (y : Int) : String :=
  if 0 ≤ y ∧ y ≤ 9999 then padded 4 y.toNat
  else (if y < 0 then "-" else "+") ++ padded 4 y.natAbs

def date (t : Instant) : Date := .ofDays (t.seconds / 86400)

def dateText (t : Instant) : String :=
  let d := t.date
  yearText d.year ++ "-" ++ padded 2 d.month ++ "-" ++ padded 2 d.day

def clockText (t : Instant) : String :=
  let s := (t.seconds % 86400).toNat
  let leap := t.nanos / 1000000000
  padded 2 (s / 3600) ++ ":" ++ padded 2 (s / 60 % 60) ++ ":" ++ padded 2 (s % 60 + leap)

def text (t : Instant) : String :=
  let n := t.nanos % 1000000000
  let fraction :=
    if n = 0 then ""
    else if n % 1000000 = 0 then "." ++ padded 3 (n / 1000000)
    else if n % 1000 = 0 then "." ++ padded 6 (n / 1000)
    else "." ++ padded 9 n
  t.dateText ++ "T" ++ t.clockText ++ fraction ++ "Z"

def millisText (t : Instant) : String :=
  t.dateText ++ "T" ++ t.clockText ++ "." ++ padded 3 (t.nanos % 1000000000 / 1000000) ++ "Z"

/-! ## Reading -/

inductive Problem where
  | outOfRange
  | impossible
  | invalid
  | tooShort
  | tooLong
  deriving DecidableEq, Repr

def Problem.message : Problem → String
  | outOfRange => "input is out of range"
  | impossible => "no possible date and time matching input"
  | invalid => "input contains invalid characters"
  | tooShort => "premature end of input"
  | tooLong => "trailing input"

/-- Reads something from the front of a text. -/
abbrev Scan (α : Type) := List Char → Except Problem (α × List Char)

def byteCount (cs : List Char) : Nat := cs.foldl (fun n c => n + c.utf8Size) 0

/-- The largest number that is counted up to. -/
def maxNumber : Nat := 9223372036854775807

/-- A number of `least` to `most` digits. -/
def scanNumber (least most : Nat) : Scan Nat := fun cs =>
  if byteCount (cs.take least) < least then .error .tooShort
  else
    let ds := (cs.take most).takeWhile Char.isDigit
    if ds.length < least then .error .invalid
    else
      let n := ds.foldl (fun n d => 10 * n + (d.toNat - 48)) 0
      if maxNumber < n then .error .outOfRange else .ok (n, cs.drop ds.length)

def scanWithin (low high least most : Nat) : Scan Nat := fun cs => do
  let (n, rest) ← scanNumber least most cs
  if low ≤ n ∧ n ≤ high then .ok (n, rest) else .error .outOfRange

def scanChar (c : Char) : Scan Unit
  | [] => .error .tooShort
  | x :: rest => if x = c then .ok ((), rest) else .error .invalid

def dropBlanks (cs : List Char) : List Char := cs.dropWhile Text.isBlank

/-- A fraction of a second; digits behind the ninth do not count. -/
def scanNanos : Scan Nat
  | '.' :: cs => do
    let (n, rest) ← scanNumber 1 9 cs
    .ok (n * Nat.pow 10 (9 - (cs.length - rest.length)), rest.dropWhile Char.isDigit)
  | cs => .ok (0, cs)

def twoBytes (cs : List Char) : Bool := 2 ≤ byteCount (cs.take 2)

/-- An offset from UTC in seconds, with hours and minutes; `separator` takes what stands between
them. -/
def scanOffset (separator : List Char → Except Problem (List Char)) : Scan Int := fun cs => do
  match cs with
  | [] => .error .tooShort
  | x :: rest =>
    if x = 'Z' ∨ x = 'z' then .ok (0, rest)
    else if x = '+' ∨ x = '-' ∨ x = '−' then
      if !twoBytes rest then .error .tooShort
      else
        match rest with
        | h1 :: h2 :: rest =>
          if h1.isDigit && h2.isDigit then
            let hours := (h1.toNat - 48) * 10 + (h2.toNat - 48)
            let rest ← separator rest
            if !twoBytes rest then .error .tooShort
            else
              match rest with
              | m1 :: m2 :: rest =>
                if m1.isDigit && m2.isDigit then
                  if '5' < m1 then .error .outOfRange
                  else
                    let minutes := (m1.toNat - 48) * 10 + (m2.toNat - 48)
                    let n : Int := hours * 3600 + minutes * 60
                    .ok (if x = '+' then n else -n, rest)
                else .error .invalid
              | _ => .error .invalid
          else .error .invalid
        | _ => .error .invalid
    else .error .invalid

/-- The letter between date and time. -/
def scanDivider : Scan Unit
  | [] => .error .tooShort
  | x :: rest => if x = 'T' ∨ x = 't' ∨ x = ' ' then .ok ((), rest) else .error .invalid

/-- The instant of a local date and time of day at an offset from UTC. -/
def ofLocal (d : Date) (hour minute second nanos : Nat) (offset : Int) : Except Problem Instant :=
  if !d.isValid then .error .outOfRange
  else if offset ≤ -86400 ∨ 86400 ≤ offset then .error .outOfRange
  else
    let (second, nanos) := if second = 60 then (59, nanos + 1000000000) else (second, nanos)
    let t : Instant :=
      ⟨d.toDays * 86400 + (hour * 3600 + minute * 60 + second : Nat) - offset, nanos⟩
    if t.date.inRange then .ok t else .error .impossible

/-- The largest year that is looked at, before the calendar has its say. -/
def maxScannedYear : Nat := 2147483647

/-- A year of up to four digits, or of any number of them behind a sign. -/
def scanYear : Scan Int := fun cs => do
  match dropBlanks cs with
  | '-' :: rest =>
    let (n, rest) ← scanNumber 1 rest.length.succ rest
    if n ≤ maxScannedYear + 1 then .ok (-(n : Int), rest) else .error .outOfRange
  | '+' :: rest =>
    let (n, rest) ← scanNumber 1 rest.length.succ rest
    if n ≤ maxScannedYear then .ok (n, rest) else .error .outOfRange
  | rest =>
    let (n, rest) ← scanNumber 1 4 rest
    .ok (n, rest)

/-- A number of one or two digits, with blanks before and behind it. -/
def scanField (low high : Nat) : Scan Nat := fun cs => do
  let (n, rest) ← scanWithin low high 1 2 (dropBlanks cs)
  .ok (n, rest)

/-- A mark between two numbers, with blanks before it. -/
def scanMark (c : Char) : Scan Unit := fun cs => scanChar c (dropBlanks cs)

def isColonOrBlank (c : Char) : Bool := c == ':' || Text.isBlank c

def scanZone : Scan Int := fun cs =>
  match cs with
  | u :: t :: c :: rest =>
    if u.toUpper = 'U' ∧ t.toUpper = 'T' ∧ c.toUpper = 'C' then .ok (0, rest)
    else scanOffset (fun cs => .ok (cs.dropWhile isColonOrBlank)) cs
  | _ => scanOffset (fun cs => .ok (cs.dropWhile isColonOrBlank)) cs

/-- The whole of a text as date, time and offset, where numbers may be short and blanks may stand
between them. -/
def read (s : String) : Except Problem Instant := do
  let (year, cs) ← scanYear s.toList
  let ((), cs) ← scanMark '-' cs
  let (month, cs) ← scanField 1 12 cs
  let ((), cs) ← scanMark '-' cs
  let (day, cs) ← scanField 1 31 cs
  let ((), cs) ← scanDivider cs
  let (hour, cs) ← scanField 0 23 cs
  let ((), cs) ← scanMark ':' cs
  let (minute, cs) ← scanField 0 59 cs
  let ((), cs) ← scanMark ':' cs
  let (second, cs) ← scanField 0 60 cs
  let (nanos, cs) ← scanNanos cs
  let (offset, cs) ← scanZone (dropBlanks cs)
  if !(dropBlanks cs).isEmpty then .error .tooLong
  else ofLocal ⟨year, month, day⟩ hour minute second nanos offset

/-- The whole of a text as date, time and offset in their full widths. -/
def readStrict (s : String) : Except Problem Instant := do
  let (year, cs) ← scanNumber 4 4 s.toList
  let ((), cs) ← scanChar '-' cs
  let (month, cs) ← scanWithin 1 12 2 2 cs
  let ((), cs) ← scanChar '-' cs
  let (day, cs) ← scanWithin 1 31 2 2 cs
  let ((), cs) ← scanDivider cs
  let (hour, cs) ← scanWithin 0 23 2 2 cs
  let ((), cs) ← scanChar ':' cs
  let (minute, cs) ← scanWithin 0 59 2 2 cs
  let ((), cs) ← scanChar ':' cs
  let (second, cs) ← scanWithin 0 60 2 2 cs
  let (nanos, cs) ← scanNanos cs
  let (offset, cs) ← scanOffset (fun cs => (·.2) <$> scanChar ':' cs) cs
  if !cs.isEmpty then .error .tooLong
  else ofLocal ⟨year, month, day⟩ hour minute second nanos offset

end Instant
end SessionReplay
