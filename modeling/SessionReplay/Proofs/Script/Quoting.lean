import SessionReplay.Proofs.Script.Pieces

/-!
# Quoted texts

A quoted text is a string literal between single quotes. It ends with its own last character,
whatever stands behind it, and its value is the text.

* `within`, `literal?`: the string literal that a text begins with, by the lexical grammar of
  ECMAScript 2019.
* `unitsOfChars_injective`: a text is known by its code units.
* `escapesNext`: whether the character behind a text is escaped.
* `quote_faithful`: quoting is undone by reading a literal.
-/

namespace SessionReplay.Script

/-! ## Reading a literal -/

/-- What is left of a literal, from a mode inside it: the code units of its value, and the text
behind its closing quote. A literal goes on in the next line if a backslash ends this one. -/
def within : Mode → List Char → Option (List UInt16 × List Char)
  | .escape value, '\r' :: '\n' :: cs => within (.literal value) cs
  | .escape value, c :: cs =>
    if isLineTerminator c then within (.literal value) cs
    else (Mode.stepEscape value c).bind fun mode => within mode cs
  | mode, c :: cs =>
    match mode.step isLineBreak c with
    | some (.code, [.literal value]) => some (value, cs)
    | some (next, []) => within next cs
    | _ => none
  | _, [] => none

/-- The literal at the front of a text: the code units of its value, and the rest of the text. -/
def literal? : List Char → Option (List UInt16 × List Char)
  | '\'' :: cs => within (.literal []) cs
  | _ => none

theorem within_escapeQuoted (value : List UInt16) (c : Char) (rest : List Char) :
    within (.literal value) (escapeQuoted c ++ rest) =
      within (.literal (value ++ unitsOf c.toNat)) rest := by
  unfold escapeQuoted
  split
  · rfl
  · rfl
  · rfl
  · rfl
  · next hSlash hQuote hFeed hReturn =>
    have hBreak := isLineBreak_eq_false_iff.2 ⟨hFeed, hReturn⟩
    rw [List.singleton_append, within]
    · simp only [Mode.step, Mode.stepLiteral, if_neg hQuote, if_neg hSlash, hBreak]
      rfl
    · simp
    · simp

theorem within_quoted (value : List UInt16) (cs rest : List Char) :
    within (.literal value) (cs.flatMap escapeQuoted ++ '\'' :: rest) =
      some (value ++ unitsOfChars cs, rest) := by
  induction cs generalizing value with
  | nil => simp [within, Mode.step, Mode.stepLiteral, unitsOfChars]
  | cons c cs ih =>
    rw [List.flatMap_cons, List.append_assoc, within_escapeQuoted, ih]
    simp [unitsOfChars]

theorem literal?_quoteChars (cs rest : List Char) :
    literal? (quoteChars cs ++ rest) = some (unitsOfChars cs, rest) := by
  have hBody := within_quoted [] cs rest
  rw [List.nil_append] at hBody
  rw [quoteChars, List.cons_append, List.cons_append, List.append_assoc]
  exact hBody

/-! ## Code units -/

/-- The units of a character show where they end. One that has two of them begins with a unit that
is no character of its own. -/
theorem unitsOf_append_inj {a b : Char} {x y : List UInt16}
    (h : unitsOf a.toNat ++ x = unitsOf b.toNat ++ y) : a = b ∧ x = y := by
  have ha : a.toNat < 0xD800 ∨ 0xDFFF < a.toNat ∧ a.toNat < 0x110000 := a.valid
  have hb : b.toNat < 0xD800 ∨ 0xDFFF < b.toNat ∧ b.toNat < 0x110000 := b.valid
  unfold unitsOf at h
  split_ifs at h <;>
    simp only [List.cons_append, List.nil_append, List.cons.injEq, ← UInt16.toNat_inj,
      Nat.toUInt16_eq, UInt16.toNat_ofNat'] at h
  · obtain ⟨hUnit, rfl⟩ := h
    exact ⟨Char.toNat_inj.1 (by omega), rfl⟩
  · omega
  · omega
  · obtain ⟨hHigh, hLow, rfl⟩ := h
    exact ⟨Char.toNat_inj.1 (by omega), rfl⟩

theorem unitsOf_ne_nil (n : Nat) : unitsOf n ≠ [] := by
  unfold unitsOf
  split <;> simp

theorem unitsOfChars_injective : Function.Injective unitsOfChars := by
  intro cs
  induction cs with
  | nil =>
    intro cs' h
    cases cs' with
    | nil => rfl
    | cons c cs' =>
      have hNil : unitsOf c.toNat ++ unitsOfChars cs' = [] := h.symm
      exact absurd (List.append_eq_nil_iff.1 hNil).1 (unitsOf_ne_nil _)
  | cons c cs ih =>
    intro cs' h
    cases cs' with
    | nil => exact absurd (List.append_eq_nil_iff.1 h).1 (unitsOf_ne_nil _)
    | cons c' cs' =>
      obtain ⟨rfl, hRest⟩ := unitsOf_append_inj h
      rw [ih hRest]

/-! ## Quotes inside -/

/-- Whether the character behind a text is escaped: it stands behind a backslash that is not. -/
def escapesNext (before : List Char) : Bool :=
  before.foldl (fun escaped c => !escaped && c == '\\') false

theorem escapesNext_escapeQuoted_append (c : Char) (before : List Char) :
    escapesNext (escapeQuoted c ++ before) = escapesNext before := by
  unfold escapeQuoted escapesNext
  split
  · rfl
  · rfl
  · rfl
  · rfl
  · next hSlash _ _ _ =>
    have hOther : (c == '\\') = false := by simpa using hSlash
    simp [hOther]

theorem quote_notMem_escapeQuoted {c : Char} (h : c ≠ '\'') : '\'' ∉ escapeQuoted c := by
  unfold escapeQuoted
  split <;> simp_all [eq_comm]

theorem escapesNext_of_escapeQuoted {c : Char} {before after : List Char}
    (h : escapeQuoted c = before ++ '\'' :: after) : escapesNext before = true := by
  by_cases hQuote : c = '\''
  · subst hQuote
    match before, h with
    | [], h => simp [escapeQuoted] at h
    | [_], h =>
      obtain ⟨rfl, -⟩ := List.cons.inj h
      rfl
    | _ :: _ :: _, h => simp [escapeQuoted] at h
  · have hNone := quote_notMem_escapeQuoted hQuote
    simp [h] at hNone

/-- A quote in the middle of a quoted text is escaped. -/
theorem escapesNext_of_quoted {cs before after : List Char}
    (h : cs.flatMap escapeQuoted = before ++ '\'' :: after) : escapesNext before = true := by
  induction cs generalizing before with
  | nil => simp at h
  | cons c cs ih =>
    rw [List.flatMap_cons] at h
    rcases List.append_eq_append_iff.1 h with ⟨later, rfl, hLater⟩ | ⟨early, hEarly, hRest⟩
    · rw [escapesNext_escapeQuoted_append]
      exact ih hLater
    · cases early with
      | nil =>
        rw [List.append_nil] at hEarly
        have hNil : escapesNext [] = true := ih hRest.symm
        cases hNil
      | cons first early =>
        obtain ⟨rfl, -⟩ := List.cons.inj hRest
        exact escapesNext_of_escapeQuoted hEarly

/-- The quotes of a quoted text are its first character, its last one, and escaped ones. -/
theorem quotes_of_quoteChars {cs before after : List Char}
    (h : quoteChars cs = before ++ '\'' :: after) :
    before = [] ∨ after = [] ∨ escapesNext before = true := by
  cases before with
  | nil => exact .inl rfl
  | cons first before =>
    obtain ⟨rfl, hBody⟩ := List.cons.inj h
    right
    rcases List.append_eq_append_iff.1 hBody with ⟨later, rfl, hLater⟩ | ⟨early, hEarly, hRest⟩
    · left
      have hLength := congrArg List.length hLater
      simp only [List.length_append, List.length_cons, List.length_nil] at hLength
      exact List.length_eq_zero_iff.1 (by omega)
    · cases early with
      | nil =>
        left
        exact (List.cons.inj hRest).2
      | cons quote early =>
        obtain ⟨rfl, -⟩ := List.cons.inj hRest
        right
        -- the quote in front escapes nothing
        show escapesNext before = true
        exact escapesNext_of_quoted hEarly

/-! ## Quoting and reading -/

/-- **Quoting is undone by reading a literal.** A text that begins with a quoted one begins with a
literal, which is just the quoted text, and whose value is the text that was quoted. So quoted texts
can be told apart, whatever follows them; they hold no line break, and no quote that is not escaped
but the two around them. -/
theorem quote_faithful (t rest : String) :
    literal? (quote t ++ rest).toList = some (unitsOfChars t.toList, rest.toList) ∧
    (∀ s, unitsOfChars s.toList = unitsOfChars t.toList → s = t) ∧
    (∀ s rest', quote s ++ rest' = quote t ++ rest → s = t ∧ rest' = rest) ∧
    (∀ c ∈ (quote t).toList, c ≠ '\n' ∧ c ≠ '\r') ∧
    ∀ before after, (quote t).toList = before ++ '\'' :: after →
      before = [] ∨ after = [] ∨ escapesNext before = true := by
  have hRead (s rest : String) :
      literal? (quote s ++ rest).toList = some (unitsOfChars s.toList, rest.toList) := by
    rw [String.toList_append, quote, String.toList_ofList, literal?_quoteChars]
  have hUnits (s : String) (h : unitsOfChars s.toList = unitsOfChars t.toList) : s = t :=
    String.toList_injective (unitsOfChars_injective h)
  refine ⟨hRead t rest, hUnits, ?_, ?_, ?_⟩
  · intro s rest' h
    have hBoth := hRead s rest'
    rw [h, hRead t rest] at hBoth
    obtain ⟨hValue, hRest⟩ := Prod.mk.inj (Option.some.inj hBoth)
    exact ⟨hUnits s hValue.symm, (String.toList_injective hRest).symm⟩
  · intro c hMem
    rw [quote, String.toList_ofList] at hMem
    exact isLineBreak_eq_false_iff.1 (isLineBreak_of_mem_quoteChars hMem)
  · intro before after h
    rw [quote, String.toList_ofList] at h
    exact quotes_of_quoteChars h

/-- A quote, a backslash and a line feed in the text, and another literal behind it. -/
theorem quote_faithful_apostrophe :
    let t := "it's\\\n"
    let before := "'it\\".toList
    quote t = "'it\\'s\\\\\\n'" ∧ (quote t).toList = before ++ '\'' :: "s\\\\\\n'".toList ∧
      literal? "'it\\'s\\\\\\n''x'".toList = some (unitsOfChars t.toList, "'x'".toList) ∧
      escapesNext before = true := by
  intro t before
  have hQuote : quote t = "'it\\'s\\\\\\n'" := by decide +kernel
  have hSplit : (quote t).toList = before ++ '\'' :: "s\\\\\\n'".toList := by decide +kernel
  have hBoth : quote t ++ "'x'" = "'it\\'s\\\\\\n''x'" := by decide +kernel
  obtain ⟨hRead, -, -, -, hQuotes⟩ := quote_faithful t "'x'"
  rw [hBoth] at hRead
  refine ⟨hQuote, hSplit, hRead, ?_⟩
  rcases hQuotes before "s\\\\\\n'".toList hSplit with hFirst | hLast | hEscaped
  · exact absurd hFirst (by decide)
  · exact absurd hLast (by decide)
  · exact hEscaped

end SessionReplay.Script
