import Mathlib.Algebra.Ring.Nat
import SessionReplay.Json.Print
import SessionReplay.Proofs.Script.Pieces
import SessionReplay.Text.Quoted
import SessionReplay.Time.Instant

/-!
# Line feeds in a text

A message is put together from fixed words and from texts that it repeats. It goes on to a new line
as often as these texts do.

* `breaks`: how often a text goes on to a new line; `IsLine`: it never does.
* `Repeats`: a message that repeats texts.
* `isLine_millisText`, `isLine_number`, `isLine_quoted`: what never goes on to a new line.
* `splitOn_textOf_iff`: when lines come back one by one as their text is split.
-/

namespace SessionReplay.Text

/-! ## Line feeds -/

def breaks (text : String) : Nat := text.toList.count '\n'

def IsLine (text : String) : Prop := '\n' ∉ text.toList

instance (text : String) : Decidable (IsLine text) := inferInstanceAs (Decidable (_ ∉ _))

@[simp]
theorem breaks_append (a b : String) : breaks (a ++ b) = breaks a + breaks b := by
  simp [breaks]

@[simp]
theorem isLine_append {a b : String} : IsLine (a ++ b) ↔ IsLine a ∧ IsLine b := by
  simp [IsLine]

theorem breaks_eq_zero {text : String} : breaks text = 0 ↔ IsLine text := List.count_eq_zero

/-- A message that repeats texts: the line feeds in it are theirs. -/
def Repeats (message : String) (texts : List String) : Prop :=
  breaks message = (texts.map breaks).sum

namespace Repeats

variable {a b message : String} {texts more : List String}

theorem of_isLine (h : IsLine message) : Repeats message [] := breaks_eq_zero.2 h

theorem self (text : String) : Repeats text [text] := by simp [Repeats]

theorem append (ha : Repeats a texts) (hb : Repeats b more) : Repeats (a ++ b) (texts ++ more) := by
  unfold Repeats at ha hb
  simp [Repeats, ha, hb]

theorem isLine_iff (h : Repeats message texts) : IsLine message ↔ ∀ text ∈ texts, IsLine text := by
  rw [← breaks_eq_zero, h, List.sum_eq_zero_iff_forall_eq_nat]
  simp [breaks_eq_zero]

end Repeats

/-! ## Numbers -/

theorem isLine_of_isPlain {text : String} (h : ∀ c ∈ text.toList, Script.isPlain c = true) :
    IsLine text := fun hMem => absurd (h _ hMem) (by decide)

theorem isLine_nat (n : Nat) : IsLine (toString n) :=
  isLine_of_isPlain fun _ h => Script.isPlain_of_mem_digits h

theorem isLine_padded (width n : Nat) : IsLine (Instant.padded width n) := by
  unfold Instant.padded
  refine isLine_append.2 ⟨?_, isLine_nat n⟩
  intro hMem
  rw [String.toList_ofList] at hMem
  exact absurd (List.eq_of_mem_replicate hMem) (by decide)

theorem isLine_yearText (y : Int) : IsLine (Instant.yearText y) := by
  unfold Instant.yearText
  split
  · exact isLine_padded _ _
  · refine isLine_append.2 ⟨?_, isLine_padded _ _⟩
    split <;> decide

theorem isLine_millisText (t : Instant) : IsLine t.millisText := by
  simp only [Instant.millisText, Instant.dateText, Instant.clockText, isLine_append,
    isLine_yearText, isLine_padded, true_and, and_true]
  decide

theorem isLine_number (n : Number) : IsLine n.text := by
  cases n with
  | natural n => exact isLine_nat n.toNat
  | negative n => exact isLine_append.2 ⟨by decide, isLine_nat _⟩
  | real x => exact isLine_of_isPlain fun c h => Script.isPlain_of_mem_write (by decide) h

/-! ## Quoted texts -/

theorem not_mem_hexDigits (n : Nat) : '\n' ∉ hexDigits n := by
  have hDigit : ∀ m < 16, m.digitChar ≠ '\n' := by decide
  induction n using Nat.strongRecOn with
  | ind n ih =>
    unfold hexDigits at ih ⊢
    by_cases hSmall : n < 16
    · rw [Nat.toDigits_of_lt_base hSmall, List.mem_singleton]
      exact (hDigit n hSmall).symm
    · rw [Nat.toDigits_of_base_le (by decide) (by omega), List.mem_append, not_or]
      refine ⟨ih _ (by omega), ?_⟩
      rw [List.mem_singleton]
      exact (hDigit _ (Nat.mod_lt n (by omega))).symm

theorem not_mem_escapeChar (c : Char) : '\n' ∉ escapeChar c := by
  unfold escapeChar
  split
  case h_7 hFeed _ _ =>
    split
    · simp [not_mem_hexDigits]
    · simpa using Ne.symm hFeed
  all_goals decide

theorem isLine_quoted (s : String) : IsLine (quoted s) := by
  simp [IsLine, quoted, not_mem_escapeChar]

/-! ## Splitting -/

theorem length_splitOn (cs : List Char) : (cs.splitOn '\n').length = cs.count '\n' + 1 := by
  induction cs with
  | nil => rfl
  | cons c cs ih =>
    rw [List.splitOn_cons_eq_if_modifyHead, List.count_cons]
    split <;> simp [ih]

theorem count_textOf (lines : List String) :
    (Script.textOf lines).count '\n' = lines.length + (lines.map breaks).sum := by
  induction lines with
  | nil => rfl
  | cons line lines ih =>
    rw [Script.textOf, List.flatMap_cons, ← Script.textOf]
    simp only [List.count_append, ih, List.map_cons, List.sum_cons, List.length_cons, breaks,
      List.count_singleton_self]
    omega

/-- **Lines come back one by one exactly if none of them goes on to a new line.** -/
theorem splitOn_textOf_iff (lines : List String) :
    (Script.textOf lines).splitOn '\n' = lines.map String.toList ++ [[]] ↔
      ∀ line ∈ lines, IsLine line := by
  refine ⟨fun h => ?_, Script.splitOn_textOf⟩
  have hCount := congrArg List.length h
  rw [length_splitOn, count_textOf] at hCount
  have hSum : (lines.map breaks).sum = 0 := by
    simp only [List.length_append, List.length_map, List.length_singleton] at hCount
    omega
  rw [List.sum_eq_zero_iff_forall_eq_nat] at hSum
  exact fun line hLine => breaks_eq_zero.1 (hSum _ (List.mem_map_of_mem hLine))

end SessionReplay.Text
