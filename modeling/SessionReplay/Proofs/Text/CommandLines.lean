import SessionReplay.Command

/-!
# Command lines

The words of a command line are what stands between its blanks. A command that is written with one
space before each of its arguments is read again as the same command.

* `Text.betweenBlanks`: a text split at its blanks, without the empty pieces.
* `Text.wordChars_eq`: these are the words of the text.
* `Text.betweenBlanks_join`: words come apart again where they were joined by spaces.
* `Command.line_faithful`: a command line is read, written and read again.
-/

namespace SessionReplay

namespace Text

/-- What stands between the blanks of a text. -/
def betweenBlanks (cs : List Char) : List (List Char) :=
  (cs.splitOnP isBlank).filter fun piece => !piece.isEmpty

/-- Some characters, and no blank among them. -/
def IsWord (w : List Char) : Prop := w ≠ [] ∧ ∀ c ∈ w, isBlank c = false

instance (w : List Char) : Decidable (IsWord w) := inferInstanceAs (Decidable (_ ∧ _))

/-! ## Splitting at blanks -/

theorem betweenBlanks_nil : betweenBlanks [] = [] := by
  rw [betweenBlanks, List.splitOnP_nil]
  rfl

/-- A text comes apart at each of its blanks. -/
theorem betweenBlanks_append {c : Char} (hBlank : isBlank c = true) (before after : List Char) :
    betweenBlanks (before ++ c :: after) = betweenBlanks before ++ betweenBlanks after := by
  unfold betweenBlanks
  rw [List.splitOnP_append_cons before after hBlank, List.filter_append]

theorem betweenBlanks_of_isWord {w : List Char} (h : IsWord w) : betweenBlanks w = [w] := by
  obtain ⟨hNe, hNone⟩ := h
  rw [betweenBlanks, List.splitOnP_eq_singleton hNone]
  simp [hNe]

/-- No piece of a text holds a blank, and together the pieces hold everything else. -/
theorem flatten_betweenBlanks (cs : List Char) :
    (betweenBlanks cs).flatten = cs.filter fun c => !isBlank c := by
  rw [betweenBlanks, List.flatten_filter_not_isEmpty]
  induction cs with
  | nil => simp [List.splitOnP_nil]
  | cons c cs ih =>
    obtain ⟨piece, more, hSplit⟩ := List.exists_cons_of_ne_nil (List.splitOnP_ne_nil isBlank cs)
    rw [List.splitOnP_cons_eq_if_modifyHead]
    cases hBlank : isBlank c <;> simp_all

theorem isWord_of_mem {cs w : List Char} (h : w ∈ betweenBlanks cs) : IsWord w := by
  refine ⟨?_, fun c hc => ?_⟩
  · rintro rfl
    simp [betweenBlanks] at h
  · have hMem : c ∈ (betweenBlanks cs).flatten := List.mem_flatten.2 ⟨w, h, hc⟩
    rw [flatten_betweenBlanks] at hMem
    simpa using (List.mem_filter.1 hMem).2

theorem betweenBlanks_eq_nil_iff {cs : List Char} :
    betweenBlanks cs = [] ↔ ∀ c ∈ cs, isBlank c = true := by
  have hFlatten : betweenBlanks cs = [] ↔ (betweenBlanks cs).flatten = [] := by
    rw [List.flatten_eq_nil_iff]
    constructor
    · intro hNone
      simp [hNone]
    · intro hEmpty
      refine List.eq_nil_iff_forall_not_mem.2 fun w hMem => ?_
      exact (isWord_of_mem hMem).1 (hEmpty w hMem)
  simp [hFlatten, flatten_betweenBlanks]

/-- Words that are joined by spaces come apart again. -/
theorem betweenBlanks_join {ws : List (List Char)} (h : ∀ w ∈ ws, IsWord w) :
    betweenBlanks ([' '].intercalate ws) = ws := by
  induction ws with
  | nil => exact betweenBlanks_nil
  | cons w rest ih =>
    obtain ⟨hWord, hRest⟩ := List.forall_mem_cons.1 h
    cases rest with
    | nil => simpa using betweenBlanks_of_isWord hWord
    | cons next rest =>
      have hSpace : isBlank ' ' = true := by decide
      rw [List.intercalate_cons_cons, List.append_assoc, List.singleton_append,
        betweenBlanks_append hSpace, betweenBlanks_of_isWord hWord, ih hRest]
      rfl

/-! ## Words -/

/-- The word that is being read, if there is one. -/
theorem betweenBlanks_current {current : List Char} (h : ∀ c ∈ current, isBlank c = false) :
    betweenBlanks current.reverse = if current.isEmpty then [] else [current.reverse] := by
  cases current with
  | nil => exact betweenBlanks_nil
  | cons c current =>
    refine betweenBlanks_of_isWord ⟨by simp, fun letter hMem => ?_⟩
    exact h letter (List.mem_reverse.1 hMem)

/-- The words from some point on, behind the letters of the word that is being read. -/
theorem wordsFrom_eq {current : List Char} (h : ∀ c ∈ current, isBlank c = false)
    (cs : List Char) : wordsFrom current cs = betweenBlanks (current.reverse ++ cs) := by
  induction cs generalizing current with
  | nil =>
    rw [List.append_nil, betweenBlanks_current h]
    cases current <;> rfl
  | cons c cs ih =>
    cases hBlank : isBlank c with
    | true =>
      have hRest : wordsFrom [] cs = betweenBlanks cs := ih (by simp)
      rw [betweenBlanks_append hBlank, betweenBlanks_current h, wordsFrom, if_pos hBlank, hRest]
      split <;> rfl
    | false =>
      have hCurrent : ∀ letter ∈ c :: current, isBlank letter = false :=
        List.forall_mem_cons.2 ⟨hBlank, h⟩
      rw [wordsFrom, if_neg (by simp [hBlank]), ih hCurrent, List.reverse_cons, List.append_assoc]
      rfl

theorem wordChars_eq (cs : List Char) : wordChars cs = betweenBlanks cs :=
  wordsFrom_eq (by simp) cs

theorem words_eq (text : String) :
    words text = (betweenBlanks text.toList).map String.ofList := by
  rw [words, wordChars_eq]

end Text

/-! ## Commands -/

namespace Command

open Text

/-- The program and the arguments. -/
def line (c : Command) : List String := c.program :: c.args

theorem line_injective {c c' : Command} (h : c.line = c'.line) : c = c' := by
  obtain ⟨program, args⟩ := c
  obtain ⟨program', args'⟩ := c'
  obtain ⟨rfl, rfl⟩ := List.cons.inj h
  rfl

theorem ofText?_eq_some {text : String} {c : Command} :
    ofText? text = some c ↔ words text = c.line := by
  unfold ofText?
  cases words text with
  | nil => simp [line]
  | cons program args =>
    constructor
    · intro h
      obtain rfl := Option.some.inj h
      rfl
    · intro h
      exact congrArg some (line_injective (c := ⟨program, args⟩) h)

theorem ofText?_eq_none {text : String} :
    ofText? text = none ↔ ∀ c ∈ text.toList, isBlank c = true := by
  rw [← betweenBlanks_eq_nil_iff, ← List.map_eq_nil_iff (f := String.ofList), ← words_eq]
  unfold ofText?
  cases words text <;> simp

/-- A command whose program and arguments are words is read from its own text. -/
theorem ofText?_text {c : Command} (h : ∀ w ∈ c.line, IsWord w.toList) :
    ofText? c.text = some c := by
  have hWords : ∀ w ∈ c.line.map String.toList, IsWord w := by
    intro w hMem
    obtain ⟨own, hOwn, rfl⟩ := List.mem_map.1 hMem
    exact h own hOwn
  have hText : c.text.toList = [' '].intercalate (c.line.map String.toList) := by
    rw [text, String.toList_intercalate]
    rfl
  rw [ofText?_eq_some, words_eq, hText, betweenBlanks_join hWords, List.map_map]
  simp [Function.comp_def]

theorem isWord_of_ofText? {text : String} {c : Command} (h : ofText? text = some c) :
    ∀ w ∈ c.line, IsWord w.toList := by
  intro w hMem
  rw [← ofText?_eq_some.1 h, words_eq] at hMem
  obtain ⟨cs, hOwn, rfl⟩ := List.mem_map.1 hMem
  rw [String.toList_ofList]
  exact isWord_of_mem hOwn

/-- **A command line is read, written and read again as the same command.** No command is read from
a text exactly if the text is all blank. What is read from any other text is written as what stands
between the blanks of the text, joined by single spaces, and read again from that. And every command
whose program and arguments are words is read from what is written of it. -/
theorem line_faithful :
    (∀ text, ofText? text = none ↔ ∀ c ∈ text.toList, isBlank c = true) ∧
    (∀ text, (∃ c ∈ text.toList, isBlank c = false) → ∃ c, ofText? text = some c ∧
      c.text = " ".intercalate ((betweenBlanks text.toList).map String.ofList) ∧
      ofText? c.text = some c) ∧
    ∀ c : Command, (∀ w ∈ c.program :: c.args, w ≠ "" ∧ ∀ x ∈ w.toList, isBlank x = false) →
      ofText? c.text = some c := by
  refine ⟨fun text => ofText?_eq_none, ?_, ?_⟩
  · rintro text ⟨x, hMem, hLetter⟩
    cases hRead : ofText? text with
    | none => simp [ofText?_eq_none.1 hRead x hMem] at hLetter
    | some c =>
      refine ⟨c, rfl, ?_, ofText?_text (isWord_of_ofText? hRead)⟩
      rw [← words_eq, ofText?_eq_some.1 hRead]
      rfl
  · intro c hWords
    refine ofText?_text fun w hMem => ?_
    obtain ⟨hNe, hNone⟩ := hWords w hMem
    exact ⟨by simpa using hNe, hNone⟩

/-- Blanks of several kinds in front, between the words and behind. -/
theorem line_faithful_runner :
    let text := "\t npx\u00a0\u3000cypress \u2028run\n"
    let c : Command := ⟨"npx", ["cypress", "run"]⟩
    (∃ x ∈ text.toList, isBlank x = false) ∧ ofText? text = some c ∧
      c.text = "npx cypress run" ∧ ofText? c.text = some c := by
  intro text c
  have hLetter : ∃ x ∈ text.toList, isBlank x = false := ⟨'n', by decide, by decide⟩
  have hRead : ofText? text = some c := by decide +kernel
  obtain ⟨-, hOther, hWords⟩ := line_faithful
  obtain ⟨own, hOwn, -, hAgain⟩ := hOther text hLetter
  obtain rfl := Option.some.inj (hRead.symm.trans hOwn)
  exact ⟨hLetter, hRead, by decide +kernel, hAgain⟩

end Command
end SessionReplay
