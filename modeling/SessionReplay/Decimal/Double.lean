/-!
# Double precision numbers

The finite numbers of the 64-bit binary format, held exactly, so that reading, rounding and
writing are arithmetic on natural numbers.

* `Double`: sign, significand and exponent of two.
* `Double.ofRatio?`: the double nearest to a quotient, a tie going to the even significand;
  none where the quotient is too large for the format.
* `Double.ofDecimal?`, `Double.ofNat`: decimal numbers and natural numbers.
* `Double.roundHalfAway`: the nearest natural number of the magnitude, a half going away from
  zero.
-/

namespace SessionReplay

/-- The number `significand * 2 ^ exponent`, negated where the sign says so. Zero has both signs. -/
structure Double where
  negative : Bool
  significand : Nat
  exponent : Int
  deriving DecidableEq, Repr

namespace Double

/-- The exponent of the smallest positive number. -/
def minExponent : Int := -1074

/-- The exponent of the largest numbers. -/
def maxExponent : Int := 971

/-- The numbers of the format: a significand of 53 bits, or a smaller one at the least
exponent. -/
structure Valid (x : Double) : Prop where
  significand_lt : x.significand < Nat.pow 2 53
  minExponent_le : minExponent ≤ x.exponent
  le_maxExponent : x.exponent ≤ maxExponent
  normal : Nat.pow 2 52 ≤ x.significand ∨ x.exponent = minExponent

def zero (negative : Bool) : Double := ⟨negative, 0, minExponent⟩

def isZero (x : Double) : Bool := x.significand == 0

instance : Inhabited Double := ⟨zero false⟩

/-- The quotient rounded to a natural number, a tie going to the even one. -/
def roundHalfEven (num den : Nat) : Nat :=
  let q := num / den
  let r := num % den
  if 2 * r < den then q
  else if den < 2 * r then q + 1
  else if q % 2 = 0 then q else q + 1

/-- The quotient `num / (den * 2 ^ e)` as numerator and denominator. -/
def scaled (num den : Nat) (e : Int) : Nat × Nat :=
  match e with
  | .ofNat k => (num, den * Nat.pow 2 k)
  | .negSucc k => (num * Nat.pow 2 (k + 1), den)

/-- The exponent at which the quotient has a significand of 53 bits, or the least exponent. -/
def exponentFor (num den : Nat) : Int :=
  let guess : Int := (num.log2 : Int) - den.log2 - 53
  let (n, d) := scaled num den guess
  max minExponent (if n < d * Nat.pow 2 53 then guess else guess + 1)

/-- The double nearest to `num / den`, for a positive `den`. -/
def ofRatio? (negative : Bool) (num den : Nat) : Option Double :=
  if num = 0 then some (zero negative)
  else
    let e := exponentFor num den
    let (n, d) := scaled num den e
    let m := roundHalfEven n d
    let x : Double := if m = Nat.pow 2 53 then ⟨negative, Nat.pow 2 52, e + 1⟩ else ⟨negative, m, e⟩
    if x.exponent ≤ maxExponent then some x else none

/-- The double nearest to `digits * 10 ^ exponent`. A power of ten beyond the format on either
side is not computed. -/
def ofDecimal? (negative : Bool) (digits : Nat) (exponent : Int) : Option Double :=
  let leading := exponent + (Nat.toDigits 10 digits).length
  if digits = 0 ∨ leading < -400 then some (zero negative)
  else if 400 < leading then none
  else match exponent with
  | .ofNat k => ofRatio? negative (digits * Nat.pow 10 k) 1
  | .negSucc k => ofRatio? negative digits (Nat.pow 10 (k + 1))

/-- The double nearest to an integer, zero for one beyond the format. -/
def ofInt (n : Int) : Double := (ofRatio? (n < 0) n.natAbs 1).getD (zero false)

/-- The magnitude rounded to a natural number, a half going up. -/
def roundHalfAway (x : Double) : Nat :=
  match x.exponent with
  | .ofNat k => x.significand * Nat.pow 2 k
  | .negSucc k => (2 * x.significand + Nat.pow 2 (k + 1)) / Nat.pow 2 (k + 2)

end Double
end SessionReplay
