import SessionReplay.Text.Base64

/-!
# Reading base64

A text of base64 is read in groups of four digits, of which the last one may be filled up. A group
that is filled up leaves bits over, and these have to be zero; so every sequence of bytes has one
text only.

* `base64Value?`: the value of a digit, found in the table of all digits.
* `base64Bytes?`: the bytes of a text, if it is one of base64.
* `base64Bytes?_eq_some_iff`: the text of bytes is the one that is read as these bytes.
* `take_base64Chars`: the first groups of a text are the text of the first bytes.
* `mem_base64Chars`: a text consists of digits, and of what its last group is filled up with.
-/

namespace SessionReplay.Text

/-! ## Digits -/

/-- All digits in the order of their values. -/
def base64Alphabet : List Char :=
  "ABCDEFGHIJKLMNOPQRSTUVWXYZabcdefghijklmnopqrstuvwxyz0123456789+/".toList

def base64Value? (c : Char) : Option Nat := base64Alphabet.idxOf? c

theorem base64Alphabet_eq : base64Alphabet = (List.range 64).map base64Digit := by decide +kernel

theorem base64Value?_digit : ∀ n < 64, base64Value? (base64Digit n) = some n := by decide +kernel

theorem base64Value?_eq_some_iff {c : Char} {n : Nat} :
    base64Value? c = some n ↔ n < 64 ∧ base64Digit n = c := by
  constructor
  · intro hValue
    obtain ⟨hn, hAt, -⟩ := List.idxOf?_eq_some_iff.1 hValue
    have hLength : n < 64 := by simpa [base64Alphabet_eq] using hn
    exact ⟨hLength, by simpa [base64Alphabet_eq] using hAt⟩
  · rintro ⟨hn, rfl⟩
    exact base64Value?_digit n hn

/-- What fills a group up is no digit. -/
theorem base64Value?_filling : base64Value? '=' = none := by decide +kernel

theorem base64Digit_ne_filling {n : Nat} (h : n < 64) : base64Digit n ≠ '=' := by
  intro hEq
  have hValue := base64Value?_digit n h
  rw [hEq, base64Value?_filling] at hValue
  cases hValue

/-! ## Groups -/

/-- The bytes of four digits. -/
def base64Group? (c₁ c₂ c₃ c₄ : Char) : Option (List UInt8) := do
  let n := (← base64Value? c₁) * 262144 + (← base64Value? c₂) * 4096 + (← base64Value? c₃) * 64 +
    (← base64Value? c₄)
  some [.ofNat (n / 65536), .ofNat (n / 256), .ofNat n]

/-- The two bytes of three digits, which leave two bits over. -/
def base64Pair? (c₁ c₂ c₃ : Char) : Option (List UInt8) := do
  let n := (← base64Value? c₁) * 4096 + (← base64Value? c₂) * 64 + (← base64Value? c₃)
  if n % 4 = 0 then some [.ofNat (n / 1024), .ofNat (n / 4)] else none

/-- The byte of two digits, which leave four bits over. -/
def base64Single? (c₁ c₂ : Char) : Option (List UInt8) := do
  let n := (← base64Value? c₁) * 64 + (← base64Value? c₂)
  if n % 16 = 0 then some [.ofNat (n / 16)] else none

/-- The bytes of the last group. -/
def base64Last? (c₁ c₂ c₃ c₄ : Char) : Option (List UInt8) :=
  if c₄ ≠ '=' then base64Group? c₁ c₂ c₃ c₄
  else if c₃ ≠ '=' then base64Pair? c₁ c₂ c₃
  else base64Single? c₁ c₂

def base64Bytes? : List Char → Option (List UInt8)
  | [] => some []
  | c₁ :: c₂ :: c₃ :: c₄ :: rest =>
    if rest = [] then base64Last? c₁ c₂ c₃ c₄
    else do some ((← base64Group? c₁ c₂ c₃ c₄) ++ (← base64Bytes? rest))
  | _ => none

/-! ## The text of bytes, group by group -/

theorem base64From_eq : ∀ (done : List Char) (bytes : List UInt8),
    base64From done bytes = done.reverse ++ base64Chars bytes
  | done, a :: b :: c :: rest => by
    rw [base64Chars, base64From, base64From, base64From_eq _ rest, base64From_eq _ rest]
    simp
  | done, [a, b] => by simp [base64Chars, base64From]
  | done, [a] => by simp [base64Chars, base64From]
  | done, [] => by simp [base64Chars, base64From]

/-- The digits of three bytes, given by their number. -/
def base64Digits (n : Nat) : List Char :=
  [base64Digit (n / 262144), base64Digit (n / 4096 % 64), base64Digit (n / 64 % 64),
    base64Digit (n % 64)]

theorem length_base64Digits (n : Nat) : (base64Digits n).length = 4 := rfl

theorem base64Chars_nil : base64Chars [] = [] := rfl

theorem base64Chars_cons (a b c : UInt8) (rest : List UInt8) :
    base64Chars (a :: b :: c :: rest) =
      base64Digits (a.toNat * 65536 + b.toNat * 256 + c.toNat) ++ base64Chars rest := by
  rw [base64Chars, base64From, base64From_eq]
  rfl

theorem base64Chars_pair (a b : UInt8) :
    base64Chars [a, b] =
      [base64Digit ((a.toNat * 256 + b.toNat) / 1024),
        base64Digit ((a.toNat * 256 + b.toNat) / 16 % 64),
        base64Digit ((a.toNat * 256 + b.toNat) * 4 % 64), '='] := rfl

theorem base64Chars_single (a : UInt8) :
    base64Chars [a] =
      [base64Digit (a.toNat / 4), base64Digit (a.toNat * 16 % 64), '=', '='] := rfl

theorem length_base64Chars : ∀ bytes : List UInt8,
    (base64Chars bytes).length = 4 * ((bytes.length + 2) / 3)
  | a :: b :: c :: rest => by
    have hRest := length_base64Chars rest
    rw [base64Chars_cons, List.length_append, hRest, length_base64Digits]
    simp only [List.length_cons]
    omega
  | [a, b] => by simp [base64Chars_pair]
  | [a] => by simp [base64Chars_single]
  | [] => rfl

theorem base64Chars_eq_nil_iff {bytes : List UInt8} : base64Chars bytes = [] ↔ bytes = [] := by
  have hLength := length_base64Chars bytes
  rw [← List.length_eq_zero_iff, hLength, ← List.length_eq_zero_iff]
  omega

/-! ## What is written is read, and nothing else -/

theorem ofNat_eq {n : Nat} {a : UInt8} (h : n % 256 = a.toNat) : UInt8.ofNat n = a := by
  rw [← UInt8.toNat_inj, UInt8.toNat_ofNat', ← h]

theorem base64Group?_eq_some_iff {c₁ c₂ c₃ c₄ : Char} {bytes : List UInt8} :
    base64Group? c₁ c₂ c₃ c₄ = some bytes ↔ ∃ a b c, bytes = [a, b, c] ∧
      base64Digits (a.toNat * 65536 + b.toNat * 256 + c.toNat) = [c₁, c₂, c₃, c₄] := by
  simp only [base64Group?, Option.bind_eq_bind, Option.bind_eq_some_iff, base64Value?_eq_some_iff,
    Option.some.injEq, base64Digits, List.cons.injEq, and_true]
  constructor
  · rintro ⟨w, ⟨hw, rfl⟩, x, ⟨hx, rfl⟩, y, ⟨hy, rfl⟩, z, ⟨hz, rfl⟩, rfl⟩
    refine ⟨_, _, _, rfl, ?_⟩
    have hNumber : (w * 262144 + x * 4096 + y * 64 + z) / 65536 % 256 * 65536 +
        (w * 262144 + x * 4096 + y * 64 + z) / 256 % 256 * 256 +
        (w * 262144 + x * 4096 + y * 64 + z) % 256 =
          w * 262144 + x * 4096 + y * 64 + z := by omega
    simp only [UInt8.toNat_ofNat', Nat.reducePow, hNumber]
    refine ⟨?_, ?_, ?_, ?_⟩ <;> congr 1 <;> omega
  · rintro ⟨a, b, c, rfl, h₁, h₂, h₃, h₄⟩
    have ha := a.toNat_lt
    have hb := b.toNat_lt
    have hc := c.toNat_lt
    refine ⟨_, ⟨by omega, h₁⟩, _, ⟨by omega, h₂⟩, _, ⟨by omega, h₃⟩, _, ⟨by omega, h₄⟩, ?_⟩
    rw [ofNat_eq (a := a) (by omega), ofNat_eq (a := b) (by omega), ofNat_eq (a := c) (by omega)]

theorem base64Pair?_eq_some_iff {c₁ c₂ c₃ : Char} {bytes : List UInt8} :
    base64Pair? c₁ c₂ c₃ = some bytes ↔
      ∃ a b, bytes = [a, b] ∧ base64Chars [a, b] = [c₁, c₂, c₃, '='] := by
  simp only [base64Pair?, Option.bind_eq_bind, Option.bind_eq_some_iff, base64Value?_eq_some_iff,
    Option.ite_none_right_eq_some, Option.some.injEq, base64Chars_pair, List.cons.injEq, and_true]
  constructor
  · rintro ⟨w, ⟨hw, rfl⟩, x, ⟨hx, rfl⟩, y, ⟨hy, rfl⟩, hOver, rfl⟩
    refine ⟨_, _, rfl, ?_⟩
    have hNumber : (w * 4096 + x * 64 + y) / 1024 % 256 * 256 +
        (w * 4096 + x * 64 + y) / 4 % 256 = (w * 4096 + x * 64 + y) / 4 := by omega
    simp only [UInt8.toNat_ofNat', Nat.reducePow, hNumber]
    refine ⟨?_, ?_, ?_⟩ <;> congr 1 <;> omega
  · rintro ⟨a, b, rfl, h₁, h₂, h₃⟩
    have ha := a.toNat_lt
    have hb := b.toNat_lt
    refine ⟨_, ⟨by omega, h₁⟩, _, ⟨by omega, h₂⟩, _, ⟨by omega, h₃⟩, by omega, ?_⟩
    rw [ofNat_eq (a := a) (by omega), ofNat_eq (a := b) (by omega)]

theorem base64Single?_eq_some_iff {c₁ c₂ : Char} {bytes : List UInt8} :
    base64Single? c₁ c₂ = some bytes ↔
      ∃ a, bytes = [a] ∧ base64Chars [a] = [c₁, c₂, '=', '='] := by
  simp only [base64Single?, Option.bind_eq_bind, Option.bind_eq_some_iff, base64Value?_eq_some_iff,
    Option.ite_none_right_eq_some, Option.some.injEq, base64Chars_single, List.cons.injEq, and_true]
  constructor
  · rintro ⟨w, ⟨hw, rfl⟩, x, ⟨hx, rfl⟩, hOver, rfl⟩
    refine ⟨_, rfl, ?_⟩
    have hNumber : (w * 64 + x) / 16 % 256 = (w * 64 + x) / 16 := by omega
    simp only [UInt8.toNat_ofNat', Nat.reducePow, hNumber]
    refine ⟨?_, ?_⟩ <;> congr 1 <;> omega
  · rintro ⟨a, rfl, h₁, h₂⟩
    have ha := a.toNat_lt
    refine ⟨_, ⟨by omega, h₁⟩, _, ⟨by omega, h₂⟩, by omega, ?_⟩
    rw [ofNat_eq (a := a) (by omega)]

/-- Three bytes fill their group, so that its last character is a digit. -/
theorem ne_filling_of_digits {a b c : UInt8} {c₁ c₂ c₃ c₄ : Char}
    (h : base64Digits (a.toNat * 65536 + b.toNat * 256 + c.toNat) = [c₁, c₂, c₃, c₄]) :
    c₄ ≠ '=' := by
  simp only [base64Digits, List.cons.injEq] at h
  rw [← h.2.2.2.1]
  exact base64Digit_ne_filling (by omega)

theorem base64Chars_of_last {c₁ c₂ c₃ c₄ : Char} {bytes : List UInt8}
    (h : base64Last? c₁ c₂ c₃ c₄ = some bytes) : base64Chars bytes = [c₁, c₂, c₃, c₄] := by
  unfold base64Last? at h
  split at h
  · obtain ⟨a, b, c, rfl, hDigits⟩ := base64Group?_eq_some_iff.1 h
    rw [base64Chars_cons, hDigits, base64Chars_nil, List.append_nil]
  · next hFilled =>
    obtain rfl := Decidable.not_not.1 hFilled
    split at h
    · obtain ⟨a, b, rfl, hChars⟩ := base64Pair?_eq_some_iff.1 h
      exact hChars
    · next hFilled =>
      obtain rfl := Decidable.not_not.1 hFilled
      obtain ⟨a, rfl, hChars⟩ := base64Single?_eq_some_iff.1 h
      exact hChars

/-- How many bytes a last group has can be seen from what it is filled up with. -/
theorem base64Last?_of_chars {c₁ c₂ c₃ c₄ : Char} : ∀ {bytes : List UInt8},
    base64Chars bytes = [c₁, c₂, c₃, c₄] → base64Last? c₁ c₂ c₃ c₄ = some bytes
  | a :: b :: c :: rest, hChars => by
    have hLength := congrArg List.length hChars
    rw [length_base64Chars] at hLength
    simp only [List.length_cons, List.length_nil] at hLength
    obtain rfl : rest = [] := List.length_eq_zero_iff.1 (by omega)
    rw [base64Chars_cons, base64Chars_nil, List.append_nil] at hChars
    rw [base64Last?, if_pos (ne_filling_of_digits hChars)]
    exact base64Group?_eq_some_iff.2 ⟨a, b, c, rfl, hChars⟩
  | [a, b], hChars => by
    have hEq := hChars
    rw [base64Chars_pair] at hEq
    simp only [List.cons.injEq, and_true] at hEq
    obtain ⟨h₁, h₂, h₃, rfl⟩ := hEq
    have hDigit : c₃ ≠ '=' := h₃ ▸ base64Digit_ne_filling (by omega)
    rw [base64Last?, if_neg (by simp), if_pos hDigit]
    exact base64Pair?_eq_some_iff.2 ⟨a, b, rfl, hChars⟩
  | [a], hChars => by
    have hEq := hChars
    rw [base64Chars_single] at hEq
    simp only [List.cons.injEq, and_true] at hEq
    obtain ⟨h₁, h₂, rfl, rfl⟩ := hEq
    rw [base64Last?, if_neg (by simp), if_neg (by simp)]
    exact base64Single?_eq_some_iff.2 ⟨a, rfl, hChars⟩
  | [], hChars => by cases hChars

theorem base64Last?_eq_some_iff {c₁ c₂ c₃ c₄ : Char} {bytes : List UInt8} :
    base64Last? c₁ c₂ c₃ c₄ = some bytes ↔ base64Chars bytes = [c₁, c₂, c₃, c₄] :=
  ⟨base64Chars_of_last, base64Last?_of_chars⟩

/-- A group that is not the last one is that of three bytes. -/
theorem base64Chars_eq_cons_iff {bytes : List UInt8} {c₁ c₂ c₃ c₄ : Char} {rest : List Char}
    (h : rest ≠ []) :
    base64Chars bytes = c₁ :: c₂ :: c₃ :: c₄ :: rest ↔ ∃ a b c more, bytes = a :: b :: c :: more ∧
      base64Digits (a.toNat * 65536 + b.toNat * 256 + c.toNat) = [c₁, c₂, c₃, c₄] ∧
      base64Chars more = rest := by
  constructor
  · intro hChars
    have hLength := congrArg List.length hChars
    have hPos := List.length_pos_iff.2 h
    rw [length_base64Chars] at hLength
    match bytes with
    | a :: b :: c :: more =>
      rw [base64Chars_cons] at hChars
      have hGroup : c₁ :: c₂ :: c₃ :: c₄ :: rest = [c₁, c₂, c₃, c₄] ++ rest := rfl
      obtain ⟨hDigits, hRest⟩ := List.append_inj (hChars.trans hGroup) (length_base64Digits _)
      exact ⟨a, b, c, more, rfl, hDigits, hRest⟩
    | [_, _] | [_] | [] =>
      simp only [List.length_cons, List.length_nil] at hLength
      omega
  · rintro ⟨a, b, c, more, rfl, hDigits, rfl⟩
    rw [base64Chars_cons, hDigits]
    rfl

/-- **The text of bytes.** It is the one text that is read as these bytes. -/
theorem base64Bytes?_eq_some_iff : ∀ {text : List Char} {bytes : List UInt8},
    base64Bytes? text = some bytes ↔ base64Chars bytes = text
  | [], bytes => by
    rw [base64Bytes?, base64Chars_eq_nil_iff, Option.some_inj, eq_comm]
  | c₁ :: c₂ :: c₃ :: c₄ :: rest, bytes => by
    have ih := @base64Bytes?_eq_some_iff rest
    rw [base64Bytes?]
    split
    · next hLast => rw [hLast, base64Last?_eq_some_iff]
    · next hMore =>
      simp only [Option.bind_eq_bind, Option.bind_eq_some_iff, Option.some_inj,
        base64Group?_eq_some_iff, ih, base64Chars_eq_cons_iff hMore]
      constructor
      · rintro ⟨_, ⟨a, b, c, rfl, hDigits⟩, more, hRest, rfl⟩
        exact ⟨a, b, c, more, rfl, hDigits, hRest⟩
      · rintro ⟨a, b, c, more, rfl, hDigits, hRest⟩
        exact ⟨_, ⟨a, b, c, rfl, hDigits⟩, more, hRest, rfl⟩
  | [_], bytes | [_, _], bytes | [_, _, _], bytes => by
    constructor
    · intro hRead
      simp [base64Bytes?] at hRead
    · intro hChars
      have hLength := congrArg List.length hChars
      rw [length_base64Chars] at hLength
      simp only [List.length_cons, List.length_nil] at hLength
      omega

/-! ## The beginning of a text -/

theorem take_base64Chars : ∀ {k : Nat} {bytes : List UInt8}, 3 * k ≤ bytes.length →
    (base64Chars bytes).take (4 * k) = base64Chars (bytes.take (3 * k))
  | 0, _, _ => rfl
  | k + 1, a :: b :: c :: rest, h => by
    have hRest : 3 * k ≤ rest.length := by
      simp only [List.length_cons] at h
      omega
    have hChars : 4 * (k + 1) = 4 * k + 1 + 1 + 1 + 1 := by omega
    have hBytes : 3 * (k + 1) = 3 * k + 1 + 1 + 1 := by omega
    rw [base64Chars_cons, hChars, hBytes]
    simp only [List.take_succ_cons, base64Digits, List.cons_append, List.nil_append,
      base64Chars_cons, take_base64Chars hRest]
  | k + 1, [_, _], h | k + 1, [_], h | k + 1, [], h => by
    simp only [List.length_cons, List.length_nil] at h
    omega

/-! ## Characters -/

theorem mem_base64Digits {a b c : UInt8} {x : Char}
    (h : x ∈ base64Digits (a.toNat * 65536 + b.toNat * 256 + c.toNat)) :
    ∃ n < 64, x = base64Digit n := by
  have ha := a.toNat_lt
  have hb := b.toNat_lt
  have hc := c.toNat_lt
  simp only [base64Digits, List.mem_cons, List.not_mem_nil, or_false] at h
  rcases h with rfl | rfl | rfl | rfl <;> exact ⟨_, by omega, rfl⟩

/-- Digits are all there is in a text, unless its last group is filled up. -/
theorem mem_base64Chars : ∀ {bytes : List UInt8} {x : Char}, x ∈ base64Chars bytes →
    (∃ n < 64, x = base64Digit n) ∨ x = '=' ∧ bytes.length % 3 ≠ 0
  | a :: b :: c :: rest, x, h => by
    rw [base64Chars_cons, List.mem_append] at h
    rcases h with hDigit | hRest
    · exact .inl (mem_base64Digits hDigit)
    · refine (mem_base64Chars hRest).imp_right fun hFilled => ⟨hFilled.1, ?_⟩
      simp only [List.length_cons]
      omega
  | [a, b], x, h => by
    have ha := a.toNat_lt
    have hb := b.toNat_lt
    rw [base64Chars_pair] at h
    simp only [List.mem_cons, List.not_mem_nil, or_false] at h
    rcases h with rfl | rfl | rfl | rfl
    · exact .inl ⟨_, by omega, rfl⟩
    · exact .inl ⟨_, by omega, rfl⟩
    · exact .inl ⟨_, by omega, rfl⟩
    · exact .inr ⟨rfl, by simp⟩
  | [a], x, h => by
    have ha := a.toNat_lt
    rw [base64Chars_single] at h
    simp only [List.mem_cons, List.not_mem_nil, or_false] at h
    rcases h with rfl | rfl | rfl | rfl
    · exact .inl ⟨_, by omega, rfl⟩
    · exact .inl ⟨_, by omega, rfl⟩
    · exact .inr ⟨rfl, by simp⟩
    · exact .inr ⟨rfl, by simp⟩

theorem filling_not_mem {bytes : List UInt8} (h : bytes.length % 3 = 0) :
    '=' ∉ base64Chars bytes := by
  intro hFilling
  rcases mem_base64Chars hFilling with ⟨n, hn, hDigit⟩ | ⟨-, hLength⟩
  · exact base64Digit_ne_filling hn hDigit.symm
  · exact hLength h

theorem utf8Size_base64Digit : ∀ n < 64, (base64Digit n).utf8Size = 1 := by decide +kernel

/-- Every character is one byte long. -/
theorem utf8Size_of_mem {bytes : List UInt8} {x : Char} (h : x ∈ base64Chars bytes) :
    x.utf8Size = 1 := by
  rcases mem_base64Chars h with ⟨n, hn, rfl⟩ | ⟨rfl, -⟩
  · exact utf8Size_base64Digit n hn
  · rfl

end SessionReplay.Text
