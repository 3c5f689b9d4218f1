import Mathlib.Algebra.Order.Round
import Mathlib.Data.Rat.Floor
import SessionReplay.Json.Basic

/-!
# Rounding

The numbers of a document are rational numbers. What is computed on their parts is what rounding
means for these, and rounding makes no difference between an integer and the double next to it as
long as the integer is not too large.

* `roundAway`: the nearest integer, a half going away from zero.
* `Double.toRat`, `Number.toRat`: the number that is meant.
* `Double.roundAway_toRat`: a double is rounded by its significand and exponent.
* `Double.ofInt_rounded`: the double that is nearest to an integer is rounded to it again.
-/

namespace SessionReplay

/-- The nearest integer, a half going away from zero. -/
def roundAway (q : ℚ) : ℤ := if 0 ≤ q then round q else -round (-q)

theorem round_mono {p q : ℚ} (h : p ≤ q) : round p ≤ round q := by
  rw [round_eq, round_eq]
  exact Int.floor_mono (by linarith)

theorem round_nonneg {q : ℚ} (h : 0 ≤ q) : 0 ≤ round q := by
  have hZero := round_mono h
  rwa [round_zero] at hZero

theorem roundAway_mono {p q : ℚ} (h : p ≤ q) : roundAway p ≤ roundAway q := by
  unfold roundAway
  split
  · next hp =>
    rw [if_pos (hp.trans h)]
    exact round_mono h
  · next hp =>
    have hLow : 0 ≤ round (-p) := round_nonneg (by linarith)
    split
    · next hq =>
      have hHigh : 0 ≤ round q := round_nonneg hq
      omega
    · have hTurned : round (-q) ≤ round (-p) := round_mono (by linarith)
      omega

theorem roundAway_nonneg {q : ℚ} (h : 0 ≤ q) : 0 ≤ roundAway q := by
  rw [roundAway, if_pos h]
  exact round_nonneg h

theorem roundAway_neg (q : ℚ) : roundAway (-q) = -roundAway q := by
  unfold roundAway
  rcases lt_trichotomy q 0 with h | rfl | h
  · rw [if_pos (by linarith), if_neg (by linarith), neg_neg]
  · simp
  · rw [if_neg (by linarith), if_pos h.le, neg_neg]

/-! ## Doubles -/

namespace Double

def magnitude (x : Double) : ℚ := x.significand * 2 ^ x.exponent

/-- The number that a double stands for. -/
def toRat (x : Double) : ℚ := if x.negative then -x.magnitude else x.magnitude

theorem magnitude_nonneg (x : Double) : 0 ≤ x.magnitude :=
  mul_nonneg (Nat.cast_nonneg _) (zpow_nonneg (by norm_num) _)

theorem roundHalfAway_eq (x : Double) : (x.roundHalfAway : ℤ) = round x.magnitude := by
  obtain ⟨negative, m, e⟩ := x
  cases e with
  | ofNat k =>
    have hWhole : magnitude ⟨negative, m, .ofNat k⟩ = ((m * 2 ^ k : ℕ) : ℚ) := by
      simp [magnitude]
    rw [hWhole, round_natCast]
    rfl
  | negSucc k =>
    have hQuotient : magnitude ⟨negative, m, .negSucc k⟩ + 1 / 2 =
        ((2 * m + 2 ^ (k + 1) : ℕ) : ℤ) / ((2 ^ (k + 2) : ℕ) : ℚ) := by
      simp only [magnitude, zpow_negSucc]
      push_cast
      field_simp
      ring
    rw [round_eq, hQuotient, Rat.floor_intCast_div_natCast]
    norm_cast

/-- A double is rounded by its magnitude, whatever its sign. -/
theorem roundAway_toRat (x : Double) :
    roundAway x.toRat = if x.negative then -(x.roundHalfAway : ℤ) else x.roundHalfAway := by
  have hMagnitude : roundAway x.magnitude = x.roundHalfAway := by
    rw [roundAway, if_pos x.magnitude_nonneg, roundHalfAway_eq]
  unfold toRat
  split
  · rw [roundAway_neg, hMagnitude]
  · exact hMagnitude

/-! ## Doubles next to integers -/

theorem scaled_neg (num den j : ℕ) : scaled num den (-(j : ℤ)) = (num * 2 ^ j, den) := by
  cases j with
  | zero => simp [scaled]
  | succ j => rfl

theorem scaled_natCast (num den j : ℕ) : scaled num den (j : ℤ) = (num, den * 2 ^ j) := rfl

theorem roundHalfAway_shifted (negative : Bool) (n j : ℕ) :
    roundHalfAway ⟨negative, n * 2 ^ j, -(j : ℤ)⟩ = n := by
  cases j with
  | zero => simp [roundHalfAway]
  | succ j =>
    have hHalf : 2 ^ (j + 1) < 2 ^ (j + 2) := Nat.pow_lt_pow_right (by decide) (by omega)
    have hDouble : 2 * (n * 2 ^ (j + 1)) + 2 ^ (j + 1) = 2 ^ (j + 1) + 2 ^ (j + 2) * n := by ring
    change (2 * (n * 2 ^ (j + 1)) + 2 ^ (j + 1)) / 2 ^ (j + 2) = n
    rw [hDouble, Nat.add_mul_div_left _ _ (by positivity), Nat.div_eq_of_lt hHalf, Nat.zero_add]

theorem le_roundHalfAway (negative : Bool) {m : ℕ} (hLarge : 2 ^ 52 ≤ m) (j : ℕ) :
    2 ^ 53 ≤ roundHalfAway ⟨negative, m, ((j + 1 : ℕ) : ℤ)⟩ := by
  calc 2 ^ 53 = 2 ^ 52 * 2 ^ 1 := by norm_num
    _ ≤ m * 2 ^ (j + 1) := Nat.mul_le_mul hLarge (Nat.pow_le_pow_right (by decide) (by omega))

theorem roundHalfEven_one (n : ℕ) : roundHalfEven n 1 = n := by simp [roundHalfEven, Nat.mod_one]

theorem le_roundHalfEven (num den : ℕ) : num / den ≤ roundHalfEven num den := by
  unfold roundHalfEven
  grind

/-- A natural number has 53 bits at the exponent that goes with its length. -/
theorem exponentFor_natural {n : ℕ} (hPositive : n ≠ 0) :
    exponentFor n 1 = (n.log2 : ℤ) - 52 := by
  have hLow : 2 ^ n.log2 ≤ n := Nat.log2_self_le hPositive
  have hOne : Nat.log2 1 = 0 := by decide
  have hNot : ¬ (scaled n 1 ((n.log2 : ℤ) - 53)).1 <
      (scaled n 1 ((n.log2 : ℤ) - 53)).2 * Nat.pow 2 53 := by
    rw [not_lt]
    rcases Nat.le_total n.log2 53 with hShort | hLong
    · obtain ⟨j, hj⟩ := Nat.exists_eq_add_of_le hShort
      have hGuess : (n.log2 : ℤ) - 53 = -(j : ℤ) := by omega
      rw [hGuess, scaled_neg, Nat.one_mul]
      calc 2 ^ 53 = 2 ^ n.log2 * 2 ^ j := by rw [← Nat.pow_add, ← hj]
        _ ≤ n * 2 ^ j := Nat.mul_le_mul_right _ hLow
    · obtain ⟨j, hj⟩ := Nat.exists_eq_add_of_le hLong
      have hGuess : (n.log2 : ℤ) - 53 = (j : ℤ) := by omega
      rw [hGuess]
      calc 1 * 2 ^ j * 2 ^ 53 = 2 ^ n.log2 := by rw [hj, Nat.pow_add]; ring
        _ ≤ n := hLow
  unfold exponentFor
  simp only [hOne, Nat.cast_zero, sub_zero, if_neg hNot, minExponent]
  omega

section Nearest

/-- The double with a significand and an exponent. A significand that was rounded up to 54 bits is
halved. -/
def packed? (negative : Bool) (m : ℕ) (e : ℤ) : Option Double :=
  let x : Double := if m = Nat.pow 2 53 then ⟨negative, Nat.pow 2 52, e + 1⟩ else ⟨negative, m, e⟩
  if x.exponent ≤ maxExponent then some x else none

variable (negative : Bool) {num den n d m : ℕ} {e : ℤ}

theorem ofRatio?_of_scaled (hPositive : num ≠ 0) (hExponent : exponentFor num den = e)
    (hScaled : scaled num den e = (n, d)) :
    ofRatio? negative num den = packed? negative (roundHalfEven n d) e := by
  unfold ofRatio?
  rw [if_neg hPositive]
  -- the exponent becomes a variable, since the quotient would be computed with the one that it is
  extract_lets own
  have hOwn : own = e := hExponent
  clear_value own
  subst hOwn
  rw [hScaled]
  rfl

theorem packed?_of_ne (hFits : m ≠ Nat.pow 2 53) (hMax : e ≤ maxExponent) :
    packed? negative m e = some ⟨negative, m, e⟩ := by
  unfold packed?
  rw [if_neg hFits]
  exact if_pos hMax

theorem packed?_of_eq (hCarry : m = Nat.pow 2 53) (hMax : e + 1 ≤ maxExponent) :
    packed? negative m e = some ⟨negative, Nat.pow 2 52, e + 1⟩ := by
  unfold packed?
  rw [if_pos hCarry]
  exact if_pos hMax

/-- Below `2 ^ 53` every natural number is a double. -/
theorem ofRatio?_small (hSmall : n < 2 ^ 53) :
    ∃ x, ofRatio? negative n 1 = some x ∧ x.negative = negative ∧ x.roundHalfAway = n := by
  by_cases hZero : n = 0
  · subst hZero
    have hRounded := roundHalfAway_shifted negative 0 1074
    rw [Nat.zero_mul] at hRounded
    exact ⟨zero negative, rfl, rfl, hRounded⟩
  · have hBits : n.log2 < 53 := (Nat.log2_lt hZero).2 hSmall
    obtain ⟨j, hj⟩ := Nat.exists_eq_add_of_le (show n.log2 ≤ 52 by omega)
    have hExponent : exponentFor n 1 = -(j : ℤ) := by
      rw [exponentFor_natural hZero]
      omega
    have hFits : n * 2 ^ j < 2 ^ 53 := by
      calc n * 2 ^ j < 2 ^ (n.log2 + 1) * 2 ^ j :=
            Nat.mul_lt_mul_of_pos_right Nat.lt_log2_self (by positivity)
        _ = 2 ^ 53 := by rw [← Nat.pow_add]; congr 1; omega
    have hMax : -(j : ℤ) ≤ maxExponent := by
      unfold maxExponent
      omega
    refine ⟨_, ?_, rfl, roundHalfAway_shifted negative n j⟩
    rw [ofRatio?_of_scaled negative hZero hExponent (scaled_neg n 1 j), roundHalfEven_one]
    exact packed?_of_ne negative hFits.ne hMax

/-- Natural numbers of 64 bits that are larger are next to doubles that are large as well. -/
theorem ofRatio?_large (hLarge : 2 ^ 53 ≤ n) (hBits : n ≤ 2 ^ 64) :
    ∃ x, ofRatio? negative n 1 = some x ∧ x.negative = negative ∧ 2 ^ 53 ≤ x.roundHalfAway := by
  have hPositive : n ≠ 0 := by omega
  have hLow : 53 ≤ n.log2 := (Nat.le_log2 hPositive).2 hLarge
  have hHigh : n.log2 < 65 := (Nat.log2_lt hPositive).2 (by omega)
  obtain ⟨j, hj⟩ := Nat.exists_eq_add_of_le hLow
  have hExponent : exponentFor n 1 = ((j + 1 : ℕ) : ℤ) := by
    rw [exponentFor_natural hPositive]
    omega
  have hNearest := ofRatio?_of_scaled negative hPositive hExponent (scaled_natCast n 1 (j + 1))
  have hSignificand : 2 ^ 52 ≤ roundHalfEven n (1 * 2 ^ (j + 1)) := by
    refine le_trans ?_ (le_roundHalfEven _ _)
    rw [Nat.le_div_iff_mul_le (by positivity)]
    calc 2 ^ 52 * (1 * 2 ^ (j + 1)) = 2 ^ n.log2 := by
          rw [Nat.one_mul, ← Nat.pow_add]
          congr 1
          omega
      _ ≤ n := Nat.log2_self_le hPositive
  have hMax : ((j + 1 : ℕ) : ℤ) + 1 ≤ maxExponent := by
    unfold maxExponent
    omega
  by_cases hCarry : roundHalfEven n (1 * 2 ^ (j + 1)) = Nat.pow 2 53
  · exact ⟨_, hNearest.trans (packed?_of_eq negative hCarry hMax), rfl,
      le_roundHalfAway negative le_rfl (j + 1)⟩
  · exact ⟨_, hNearest.trans (packed?_of_ne negative hCarry (by omega)), rfl,
      le_roundHalfAway negative hSignificand j⟩

end Nearest

/-- The double that is nearest to an integer has its sign, and is rounded to its magnitude again
unless that is large. -/
theorem ofInt_rounded {i : ℤ} (hBits : i.natAbs ≤ 2 ^ 64) :
    (ofInt i).negative = decide (i < 0) ∧ ((ofInt i).roundHalfAway = i.natAbs ∨
      2 ^ 53 ≤ i.natAbs ∧ 2 ^ 53 ≤ (ofInt i).roundHalfAway) := by
  unfold ofInt
  rcases Nat.lt_or_ge i.natAbs (2 ^ 53) with hSmall | hLarge
  · obtain ⟨x, hNearest, hSign, hRounded⟩ := ofRatio?_small (decide (i < 0)) hSmall
    rw [hNearest]
    exact ⟨hSign, .inl hRounded⟩
  · obtain ⟨x, hNearest, hSign, hRounded⟩ := ofRatio?_large (decide (i < 0)) hLarge hBits
    rw [hNearest]
    exact ⟨hSign, .inr ⟨hLarge, hRounded⟩⟩

end Double

/-! ## Numbers of a document -/

/-- The number that is meant. -/
def Number.toRat : Number → ℚ
  | .natural n => n.toNat
  | .negative n => -(n.val + 1)
  | .real x => x.toRat

end SessionReplay
