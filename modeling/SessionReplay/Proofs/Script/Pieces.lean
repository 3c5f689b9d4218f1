import SessionReplay.Decimal.Shortest
import SessionReplay.Proofs.Script.Lexer
import SessionReplay.Script.Instruction

/-!
# Pieces of a line

* `run_quoteChars`: a quoted text is one literal, whose value is that text.
* `Reads`, `ReadsLine`: a piece of a line, and a line, between given brackets.
* `reads_quote`, `reads_nat`, `reads_coordinate`, `reads_lookup`: pieces that leave all brackets as
  they are.
* `isPlain_of_mem_write`: numbers are made of characters that are read as themselves.
-/

namespace SessionReplay.Script

/-! ## Literals -/

/-- The code units of a text. -/
def unitsOfChars (cs : List Char) : List UInt16 := cs.flatMap fun c => unitsOf c.toNat

/-- An escaped character adds its code units to the literal that it stands in. -/
theorem run_escapeQuoted (ends : Char → Bool) (value : List UInt16) (c : Char) :
    run ends (.literal value) (escapeQuoted c) =
      some (.literal (value ++ unitsOf c.toNat), []) := by
  unfold escapeQuoted
  split
  · rfl
  · rfl
  · rfl
  · rfl
  · next hSlash hQuote hFeed hReturn =>
    have hBreak := isLineBreak_eq_false_iff.2 ⟨hFeed, hReturn⟩
    simp only [run, Mode.step, Mode.stepLiteral, if_neg hQuote, if_neg hSlash, hBreak]
    rfl

theorem run_literal (ends : Char → Bool) (value : List UInt16) (cs : List Char) :
    run ends (.literal value) (cs.flatMap escapeQuoted) =
      some (.literal (value ++ unitsOfChars cs), []) := by
  induction cs generalizing value with
  | nil => simp [run, unitsOfChars]
  | cons c cs ih =>
    rw [List.flatMap_cons, run_append, run_escapeQuoted]
    simp [ih, unitsOfChars]

/-- A quoted text is one literal, whose value is that text. -/
theorem run_quoteChars (ends : Char → Bool) (cs : List Char) :
    run ends .code (quoteChars cs) = some (.code, [.literal (unitsOfChars cs)]) := by
  have hBody := run_literal ends [] cs
  rw [quoteChars, List.cons_append, run]
  simp only [Mode.step, if_true, run_append, hBody]
  simp [run, Mode.step, Mode.stepLiteral]

/-- A quoted text is one line. -/
theorem isLineBreak_of_mem_quoteChars {cs : List Char} {c : Char} (h : c ∈ quoteChars cs) :
    isLineBreak c = false := by
  simp only [quoteChars, List.cons_append, List.mem_cons, List.mem_append, List.mem_flatMap,
    List.not_mem_nil, or_false] at h
  rcases h with rfl | ⟨original, -, hc⟩ | rfl
  · rfl
  · unfold escapeQuoted at hc
    split at hc
    · rcases List.mem_pair.1 hc with rfl | rfl <;> rfl
    · rcases List.mem_pair.1 hc with rfl | rfl <;> rfl
    · rcases List.mem_pair.1 hc with rfl | rfl <;> rfl
    · rcases List.mem_pair.1 hc with rfl | rfl <;> rfl
    · next hSlash hQuote hFeed hReturn =>
      obtain rfl := List.mem_singleton.1 hc
      exact isLineBreak_eq_false_iff.2 ⟨hFeed, hReturn⟩
  · rfl

theorem lineFeed_notMem_quoteChars (cs : List Char) : '\n' ∉ quoteChars cs := by
  intro h
  have hBreak := isLineBreak_of_mem_quoteChars h
  contradiction

/-! ## Pieces -/

/-- A piece of a line that is read with the first brackets to be closed and leaves the others. -/
structure Reads (stack next : List Char) (text : String) : Prop where
  single : '\n' ∉ text.toList
  scan : scan stack text.toList = some next

/-- A line that is read with the first brackets to be closed and leaves the others. -/
structure ReadsLine (stack next : List Char) (line : String) : Prop where
  single : '\n' ∉ line.toList
  scan : scanLine stack line = some next

theorem Reads.append {stack middle next : List Char} {a b : String} (ha : Reads stack middle a)
    (hb : Reads middle next b) : Reads stack next (a ++ b) where
  single := by simpa using ⟨ha.single, hb.single⟩
  scan := by rw [String.toList_append, scan_append ha.scan, hb.scan]

/-- A line may end with any piece. -/
theorem Reads.line {stack next : List Char} {text : String} (h : Reads stack next text) :
    ReadsLine stack next text where
  single := h.single
  scan := by
    rw [scanLine, scan_append h.scan]
    rfl

theorem reads_quote (stack : List Char) (s : String) : Reads stack stack (quote s) where
  single := by simpa [quote] using lineFeed_notMem_quoteChars s.toList
  scan := by
    rw [quote, String.toList_ofList, scan_of_run (run_quoteChars _ _)]
    rfl

/-- A character that is read as itself and is no bracket. -/
def isPlain (c : Char) : Bool := !"\n'/()[]\x7b\x7d".toList.contains c

theorem run_plain {ends : Char → Bool} {cs : List Char} (h : ∀ c ∈ cs, isPlain c = true) :
    run ends .code cs = some (.code, cs.map Token.code) := by
  induction cs with
  | nil => rfl
  | cons c cs ih =>
    rw [List.forall_mem_cons] at h
    have hQuote : c ≠ '\'' := by
      rintro rfl
      exact absurd h.1 (by decide)
    have hSlash : c ≠ '/' := by
      rintro rfl
      exact absurd h.1 (by decide)
    simp [run, Mode.step, hQuote, hSlash, ih h.2]

theorem nest_code_of_isPlain {c : Char} (h : isPlain c = true) (stack : List Char) :
    Token.nest stack (.code c) = some stack := by
  have hNe : ∀ bracket, isPlain bracket = false → c ≠ bracket := by
    rintro bracket hBracket rfl
    exact Bool.noConfusion (h.symm.trans hBracket)
  unfold Token.nest
  split
  · next hCode => exact absurd (Token.code.inj hCode) (hNe _ rfl)
  · next hCode => exact absurd (Token.code.inj hCode) (hNe _ rfl)
  · next hCode => exact absurd (Token.code.inj hCode) (hNe _ rfl)
  · next other _ _ _ hCode =>
    obtain rfl := Token.code.inj hCode
    exact if_neg (by simp [hNe ')' rfl, hNe ']' rfl, hNe '\x7d' rfl])
  · rfl

theorem nest_plain {cs : List Char} (h : ∀ c ∈ cs, isPlain c = true) (stack : List Char) :
    nest stack (cs.map Token.code) = some stack := by
  induction cs with
  | nil => rfl
  | cons c cs ih =>
    rw [List.forall_mem_cons] at h
    rw [List.map_cons, nest, List.foldlM_cons, nest_code_of_isPlain h.1]
    exact ih h.2

theorem reads_plain {text : String} (h : ∀ c ∈ text.toList, isPlain c = true)
    (stack : List Char) : Reads stack stack text where
  single := fun hMem => absurd (h _ hMem) (by decide)
  scan := by rw [scan_of_run (run_plain h), nest_plain h]

theorem isPlain_of_isDigit {c : Char} (h : c.isDigit = true) : isPlain c = true := by
  have hNone : "\n'/()[]\x7b\x7d".toList.any Char.isDigit = false := by decide
  simp only [isPlain, Bool.not_eq_true', List.contains_eq_mem, decide_eq_false_iff_not]
  intro hMem
  exact List.any_eq_false.1 hNone c hMem h

theorem isDigit_of_mem_toString {n : Nat} {c : Char} (h : c ∈ (toString n).toList) :
    c.isDigit = true := by
  rw [Nat.toString_eq_ofList_toDigits, String.toList_ofList] at h
  exact Nat.isDigit_of_mem_toDigits (by decide) (by decide) h

theorem isPlain_of_mem_digits {n : Nat} {c : Char} (h : c ∈ (toString n).toList) :
    isPlain c = true :=
  isPlain_of_isDigit (isDigit_of_mem_toString h)

theorem reads_nat (n : Nat) (stack : List Char) : Reads stack stack (toString n) :=
  reads_plain (fun _ h => isPlain_of_mem_digits h) stack

theorem isPlain_of_mem_pointAfter {digits count : Nat} {c : Char}
    (h : c ∈ (DecimalStyle.pointAfter (toString digits) count).toList) : isPlain c = true := by
  rw [DecimalStyle.pointAfter, String.toList_ofList, List.mem_append, List.mem_cons] at h
  rcases h with h | rfl | h
  · exact isPlain_of_mem_digits (List.mem_of_mem_take h)
  · decide
  · exact isPlain_of_mem_digits (List.mem_of_mem_drop h)

theorem isPlain_of_mem_zeros {count : Nat} {c : Char} (h : c ∈ (DecimalStyle.zeros count).toList) :
    isPlain c = true := by
  rw [DecimalStyle.zeros, String.toList_ofList] at h
  obtain rfl := List.eq_of_mem_replicate h
  decide

variable {style : DecimalStyle}

theorem isPlain_of_mem_writeDigits (hEnd : style.wholeEnd.toList.all isPlain = true)
    {d : DecimalDigits} {c : Char} (h : c ∈ (style.writeDigits d).toList) : isPlain c = true := by
  have hFixed : ∀ text : String, text.toList.all isPlain = true → c ∈ text.toList →
      isPlain c = true := fun text hText => List.all_eq_true.1 hText c
  simp only [DecimalStyle.writeDigits] at h
  split at h
  · split at h
    · rw [String.toList_append, String.toList_append, List.mem_append, List.mem_append] at h
      rcases h with (h | h) | h
      · exact isPlain_of_mem_digits h
      · exact isPlain_of_mem_zeros h
      · exact hFixed _ hEnd h
    · split at h
      · exact isPlain_of_mem_pointAfter h
      · rw [String.toList_append, String.toList_append, List.mem_append, List.mem_append] at h
        rcases h with (h | h) | h
        · exact hFixed "0." (by decide) h
        · exact isPlain_of_mem_zeros h
        · exact isPlain_of_mem_digits h
  · rw [String.toList_append, String.toList_append, List.mem_append, List.mem_append] at h
    rcases h with (h | h) | h
    · split at h
      · exact isPlain_of_mem_digits h
      · exact isPlain_of_mem_pointAfter h
    · split at h
      · exact hFixed "e-" (by decide) h
      · exact hFixed "e+" (by decide) h
    · exact isPlain_of_mem_digits h

theorem isPlain_of_mem_write (hEnd : style.wholeEnd.toList.all isPlain = true) {x : Double}
    {c : Char} (h : c ∈ (style.write x).toList) : isPlain c = true := by
  have hSign : "-".toList.all isPlain = true := by decide
  rw [DecimalStyle.write, String.toList_append, List.mem_append] at h
  rcases h with h | h
  · split at h
    · exact List.all_eq_true.1 hSign c h
    · contradiction
  · exact isPlain_of_mem_writeDigits hEnd h

theorem reads_coordinate (x : Double) (stack : List Char) :
    Reads stack stack (coordinateStyle.write x) :=
  reads_plain (fun _ h => isPlain_of_mem_write (by decide) h) stack

theorem reads_lookup (selector : String) (stack : List Char) :
    Reads stack stack (lookup selector) := by
  have hXpath : Reads stack (')' :: stack) "cy.xpath(" := ⟨by decide, rfl⟩
  have hGet : Reads stack (')' :: stack) "cy.get(" := ⟨by decide, rfl⟩
  have hComma : Reads (')' :: stack) (')' :: stack) ", " := ⟨by decide, rfl⟩
  have hOptions : Reads (')' :: stack) (')' :: stack) lookupOptions := ⟨by decide, rfl⟩
  have hClose : Reads (')' :: stack) stack ")" := ⟨by decide, rfl⟩
  unfold lookup
  split
  · exact (((hXpath.append (reads_quote _ _)).append hComma).append hOptions).append hClose
  · exact (((hGet.append (reads_quote _ _)).append hComma).append hOptions).append hClose

/-! ## Lines -/

/-- A line that opens no bracket that it does not close, and closes none that it did not open. -/
def IsClosed (line : String) : Prop := ∀ stack, ReadsLine stack stack line

end SessionReplay.Script
