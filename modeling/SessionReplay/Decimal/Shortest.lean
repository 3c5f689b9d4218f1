import SessionReplay.Decimal.Double

/-!
# The shortest decimal text of a double

* `Double.shortest`: the fewest decimal digits that read back as the same double, and of the
  texts with that many digits the one nearest to it.
* `DecimalStyle`: how a writer lays digits out; `DecimalStyle.write` follows it.
-/

namespace SessionReplay

/-- The magnitude `digits * 10 ^ exponent`. -/
structure DecimalDigits where
  digits : Nat
  exponent : Int
  deriving DecidableEq, Repr

namespace Double

/-- The numbers that round to a positive double form an interval; its ends count where the
significand is even. All three numbers are over one denominator. -/
structure Interval where
  low : Nat
  value : Nat
  high : Nat
  denominator : Nat
  closed : Bool

def interval (x : Double) : Interval :=
  let m := x.significand
  let below := if m = Nat.pow 2 52 ∧ minExponent < x.exponent then 1 else 2
  let quarter : Int := x.exponent - 2
  let up := Nat.pow 2 quarter.toNat
  ⟨(4 * m - below) * up, 4 * m * up, (4 * m + 2) * up, Nat.pow 2 (-quarter).toNat, m % 2 == 0⟩

namespace Interval

/-- Whether `digits * 10 ^ exponent` rounds to the double. -/
def contains (i : Interval) (digits : Nat) (exponent : Int) : Bool :=
  let point := digits * Nat.pow 10 exponent.toNat * i.denominator
  let unit := Nat.pow 10 (-exponent).toNat
  if i.closed then i.low * unit ≤ point && point ≤ i.high * unit
  else i.low * unit < point && point < i.high * unit

/-- The exponent `k` with `10 ^ k ≤ value < 10 ^ (k + 1)`. -/
def magnitude (i : Interval) : Int :=
  let length (n : Nat) : Nat := (Nat.toDigits 10 n).length
  if i.denominator ≤ i.value then (length (i.value / i.denominator) : Int) - 1
  else
    let l := length (i.denominator / i.value)
    if i.denominator ≤ i.value * Nat.pow 10 (l - 1) then -((l - 1 : Nat) : Int) else -(l : Int)

/-- The two neighbours of the value on the grid of multiples of `10 ^ exponent`: the one below
that is in the interval, or the one above, the nearer where both are. -/
def onGrid (i : Interval) (exponent : Int) : Option DecimalDigits :=
  let num := i.value * Nat.pow 10 (-exponent).toNat
  let den := i.denominator * Nat.pow 10 exponent.toNat
  let d := num / den
  let nearer := if 2 * (num % den) ≤ den then d else d + 1
  let farther := if 2 * (num % den) ≤ den then d + 1 else d
  if nearer != 0 && i.contains nearer exponent then some ⟨nearer, exponent⟩
  else if farther != 0 && i.contains farther exponent then some ⟨farther, exponent⟩
  else none

/-- The first grid with a hit, from the coarsest to the one of 17 digits. -/
def search (i : Interval) (top : Int) : Nat → Nat → Option DecimalDigits
  | _, 0 => none
  | n, left + 1 =>
    match i.onGrid (top - n) with
    | some d => some d
    | none => search i top (n + 1) left

end Interval

/-- Zeros at the end of the digits moved into the exponent. -/
def stripZeros : Nat → DecimalDigits → DecimalDigits
  | 0, d => d
  | fuel + 1, d => if d.digits % 10 = 0 then stripZeros fuel ⟨d.digits / 10, d.exponent + 1⟩ else d

/-- The shortest digits of the magnitude of a double. -/
def shortest (x : Double) : DecimalDigits :=
  if x.isZero then ⟨0, 0⟩
  else
    let i := x.interval
    let top := i.magnitude
    stripZeros 18 ((i.search top 0 18).getD ⟨0, 0⟩)

end Double

/-! ## Layout -/

/-- How a number is laid out: the powers of ten of the leading digit that are written
positionally, and what follows a number without a fraction. -/
structure DecimalStyle where
  positional : Int → Bool
  wholeEnd : String

namespace DecimalStyle

def zeros (n : Nat) : String := String.ofList (List.replicate n '0')

/-- Digits with a point after the first `n` of them. -/
def pointAfter (digits : String) (n : Nat) : String :=
  String.ofList (digits.toList.take n ++ '.' :: digits.toList.drop n)

/-- The text of a magnitude. -/
def writeDigits (style : DecimalStyle) (d : DecimalDigits) : String :=
  let text := toString d.digits
  let count := text.length
  let leading : Int := d.exponent + count - 1
  if style.positional leading then
    if 0 ≤ d.exponent then text ++ zeros d.exponent.toNat ++ style.wholeEnd
    else if 0 ≤ leading then pointAfter text (leading.toNat + 1)
    else "0." ++ zeros (-leading - 1).toNat ++ text
  else
    let mantissa := if count = 1 then text else pointAfter text 1
    mantissa ++ (if leading < 0 then "e-" else "e+") ++ toString leading.natAbs

def write (style : DecimalStyle) (x : Double) : String :=
  (if x.negative then "-" else "") ++ style.writeDigits x.shortest

end DecimalStyle
end SessionReplay
