import SessionReplay.Proofs.Script.Pieces
import SessionReplay.Proofs.Script.Steps

/-!
# Comments in place of instructions

A step without instructions is left in the script as a comment that holds texts of the recording.

* `InertLine`: the comments of a step, with the texts that they hold.
* `Flattens`: a comment that holds texts flattened; `Flattens.isClosed` says that none of them
  ends it by a line break.
* `inertLine_comment_iff`: the whole line is a comment exactly if no text holds a line separator or
  a paragraph separator.
-/

namespace SessionReplay.Script

/-! ## Reading comments -/

/-- A comment goes on until a character that ends it. -/
theorem run_comment {ends : Char → Bool} {cs : List Char} (h : ∀ c ∈ cs, ends c = false) :
    run ends .comment cs = some (.comment, []) := by
  induction cs with
  | nil => rfl
  | cons c cs ih =>
    rw [List.forall_mem_cons] at h
    simp [run, Mode.step, h.1, ih h.2]

/-- Behind a character that ends a comment there is code. -/
theorem run_comment_ends {ends : Char → Bool} {cs : List Char} (h : ∃ c ∈ cs, ends c = true)
    {last : Mode} {tokens : List Token} (hRun : run ends .comment cs = some (last, tokens)) :
    ∃ c more, tokens = .comment :: .code c :: more := by
  induction cs with
  | nil => simp at h
  | cons c cs ih =>
    by_cases hc : ends c = true
    · simp only [run, Mode.step, hc, if_true] at hRun
      obtain ⟨⟨mode, more⟩, -, hEq⟩ := Option.map_eq_some_iff.1 hRun
      exact ⟨c, more, (Prod.mk.inj hEq).2.symm⟩
    · simp only [run, Mode.step, hc] at hRun
      obtain ⟨⟨mode, more⟩, hRest, hEq⟩ := Option.map_eq_some_iff.1 hRun
      obtain ⟨rfl, rfl⟩ := Prod.mk.inj hEq
      have hMore : ∃ c ∈ cs, ends c = true := by simpa [hc] using h
      exact ih hMore hRest

/-- What begins with two slashes is one comment exactly if none of the characters behind them
ends it. -/
theorem lex_comment_iff (ends : Char → Bool) (rest : List Char) :
    lex ends ('/' :: '/' :: rest) = some [.comment] ↔ ∀ c ∈ rest, ends c = false := by
  have hLex : lex ends ('/' :: '/' :: rest) =
      (run ends .comment rest).bind fun last => last.1.finish.map (last.2 ++ ·) := by
    simp [lex, run, Mode.step]
  rw [hLex]
  constructor
  · intro h
    obtain ⟨⟨last, tokens⟩, hRun, hFinish⟩ := Option.bind_eq_some_iff.1 h
    by_contra hEnds
    obtain ⟨c, more, rfl⟩ := run_comment_ends (by simpa using hEnds) hRun
    obtain ⟨tail, -, hTail⟩ := Option.map_eq_some_iff.1 hFinish
    simp at hTail
  · intro h
    rw [run_comment h]
    rfl

/-- Characters that are read as themselves are the tokens before those of what follows. -/
theorem lex_plain {ends : Char → Bool} {before : List Char}
    (h : ∀ c ∈ before, isPlain c = true) (cs : List Char) :
    lex ends (before ++ cs) = (lex ends cs).map (before.map Token.code ++ ·) := by
  unfold lex
  rw [run_append, run_plain h]
  simp only [Option.bind_some]
  cases run ends .code cs with
  | none => rfl
  | some last => simp [Option.map_map, Function.comp_def]

/-! ## Flattened texts -/

/-- What is left of a text when it is flattened. -/
theorem mem_flattenChars {c : Char} (hc : c ≠ ' ') (cs : List Char) :
    c ∈ flattenChars cs ↔ c ∈ cs ∧ isLineBreak c = false := by
  induction cs using flattenChars.induct with
  | case1 => simp [flattenChars]
  | case2 rest ih =>
    rw [flattenChars, List.mem_cons, ih]
    simp only [hc, false_or, List.mem_cons, and_congr_left_iff]
    intro hBreak
    have hReturn : c ≠ '\r' := by
      rintro rfl
      contradiction
    have hFeed : c ≠ '\n' := by
      rintro rfl
      contradiction
    simp [hReturn, hFeed]
  | case3 first rest hFirst ih =>
    rw [flattenChars.eq_3 _ _ hFirst, List.mem_cons, ih, List.mem_cons, or_and_right]
    by_cases hBreak : first = '\r' ∨ first = '\n'
    · have hEnds : ¬ (c = first ∧ isLineBreak c = false) := by
        rintro ⟨rfl, hFalse⟩
        rcases hBreak with rfl | rfl <;> contradiction
      simp [hBreak, hc, hEnds]
    · have hSelf : c = first → isLineBreak c = false := by
        rintro rfl
        simpa [isLineBreak, and_comm] using hBreak
      simp [hBreak, and_iff_left_of_imp hSelf]

/-- A part of a line that holds texts flattened, and no line terminator but those in them. -/
def Holds (part : String) (texts : List String) : Prop :=
  ∀ c, isLineTerminator c = true →
    (c ∈ part.toList ↔ ∃ text ∈ texts, c ∈ flattenChars text.toList)

namespace Holds

theorem fixed {part : String} (h : part.toList.any isLineTerminator = false) :
    Holds part [] := by
  intro c hc
  have hNone : c ∉ part.toList := fun hMem => List.any_eq_false.1 h c hMem hc
  simp [hNone]

theorem flattened (text : String) : Holds (flatten text) [text] := by
  intro c _
  simp [flatten]

theorem append {a b : String} {texts more : List String} (ha : Holds a texts)
    (hb : Holds b more) : Holds (a ++ b) (texts ++ more) := by
  intro c hc
  rw [String.toList_append, List.mem_append, ha c hc, hb c hc]
  simp only [List.mem_append, or_and_right, exists_or]

theorem nat (n : Nat) : Holds (toString n) [] := by
  refine fixed (List.any_eq_false.2 fun c hMem hEnds => ?_)
  have hDigit := isDigit_of_mem_toString hMem
  simp only [isLineTerminator, isLineBreak, Bool.or_eq_true, decide_eq_true_eq] at hEnds
  rcases hEnds with ((rfl | rfl) | rfl) | rfl <;> contradiction

end Holds

/-- What begins with two slashes. -/
def BeginsComment (line : String) : Prop := ∃ rest, line.toList = '/' :: '/' :: rest

theorem BeginsComment.append {a : String} (h : BeginsComment a) (b : String) :
    BeginsComment (a ++ b) := by
  obtain ⟨rest, hRest⟩ := h
  exact ⟨rest ++ b.toList, by simp [hRest]⟩

/-- A comment that holds texts flattened, and no line terminator but those in them. -/
structure Flattens (line : String) (texts : List String) : Prop where
  begins : BeginsComment line
  holds : Holds line texts

theorem placeholder_flattens (kind : String) : Flattens (placeholder kind) [kind] where
  begins := .append ⟨_, rfl⟩ _
  holds := .append (.fixed (by decide)) (.flattened kind)

theorem skippedLine_flattens (index : Nat) (stepName : String) (problem : StepProblem) :
    Flattens (skippedLine index stepName problem) [stepName, problem.message] where
  begins := .append (.append (.append (.append (.append ⟨_, rfl⟩ _) _) _) _) _
  holds := .append (.append (.append (.append (.append (.fixed (by decide)) (.nat index))
    (.fixed (by decide))) (.flattened stepName)) (.fixed (by decide))) (.flattened _)

theorem keyUp_flattens (s : Step) : ∃ line, keyUp s = [.free line] ∧
    Flattens line [s.key.getD "?"] := by
  refine ⟨_, rfl, .append (.append ⟨_, rfl⟩ _) _, ?_⟩
  exact .append (.append (.fixed (by decide)) (.flattened _)) (.fixed (by decide))

/-! ## What ends a comment -/

theorem isLineTerminator_of_isLineBreak {c : Char} (h : isLineBreak c = true) :
    isLineTerminator c = true := by
  simp [isLineTerminator, h]

/-- No text that a comment holds ends it by a line feed or a carriage return. -/
theorem Flattens.not_isLineBreak {line : String} {texts : List String} (h : Flattens line texts) :
    ∀ c ∈ line.toList, isLineBreak c = false := by
  intro c hMem
  rw [Bool.eq_false_iff]
  intro hBreak
  obtain ⟨text, -, hText⟩ := (h.holds c (isLineTerminator_of_isLineBreak hBreak)).1 hMem
  rw [mem_flattenChars (by rintro rfl; contradiction)] at hText
  exact Bool.noConfusion (hBreak.symm.trans hText.2)

/-- A text without the separators that are line terminators for a script alone. -/
def IsUnbroken (text : String) : Prop := '\u2028' ∉ text.toList ∧ '\u2029' ∉ text.toList

theorem Flattens.not_isLineTerminator_iff {line : String} {texts : List String}
    (h : Flattens line texts) :
    (∀ c ∈ line.toList, isLineTerminator c = false) ↔ ∀ text ∈ texts, IsUnbroken text := by
  constructor
  · intro hLine text hText
    have hNone : ∀ c, c ≠ ' ' → isLineTerminator c = true → isLineBreak c = false →
        c ∉ text.toList := by
      intro c hBlank hEnds hBreak hMem
      have hFlat := (mem_flattenChars hBlank text.toList).2 ⟨hMem, hBreak⟩
      exact Bool.noConfusion (hEnds.symm.trans (hLine c ((h.holds c hEnds).2 ⟨text, hText, hFlat⟩)))
    exact ⟨hNone _ (by decide) rfl rfl, hNone _ (by decide) rfl rfl⟩
  · intro hTexts c hMem
    rw [Bool.eq_false_iff]
    intro hEnds
    have hBreak := h.not_isLineBreak c hMem
    obtain ⟨text, hText, hFlat⟩ := (h.holds c hEnds).1 hMem
    have hIn := ((mem_flattenChars (by rintro rfl; contradiction) text.toList).1 hFlat).1
    simp only [isLineTerminator, hBreak, Bool.false_or, Bool.or_eq_true,
      decide_eq_true_eq] at hEnds
    rcases hEnds with rfl | rfl
    · exact (hTexts text hText).1 hIn
    · exact (hTexts text hText).2 hIn

/-- A comment is closed, whatever it holds. -/
theorem Flattens.isClosed {line : String} {texts : List String} (h : Flattens line texts) :
    IsClosed line := by
  obtain ⟨rest, hLine⟩ := h.begins
  have hRest : ∀ c ∈ rest, isLineBreak c = false := by
    intro c hMem
    exact h.not_isLineBreak c (by simp [hLine, hMem])
  have hComment : run isLineBreak .code line.toList = some (.comment, []) := by
    simp [hLine, run, Mode.step, run_comment hRest]
  have hRun : run isLineBreak .code (line.toList ++ ['\n']) =
      some (.code, [.comment, .code '\n']) := by
    rw [run_append, hComment]
    rfl
  intro stack
  constructor
  · exact fun hMem => Bool.noConfusion (h.not_isLineBreak _ hMem)
  · rw [scanLine, scan_of_run hRun]
    rfl

/-- Indented, a comment is one comment behind blanks exactly if no text that it holds has a
separator in it. -/
theorem Flattens.lex_iff {line : String} {texts : List String} (h : Flattens line texts) :
    lex isLineTerminator (stepIndent ++ line).toList =
        some (stepIndent.toList.map Token.code ++ [.comment]) ↔
      ∀ text ∈ texts, IsUnbroken text := by
  obtain ⟨rest, hLine⟩ := h.begins
  have hSlashes : (∀ c ∈ line.toList, isLineTerminator c = false) ↔
      ∀ c ∈ rest, isLineTerminator c = false := by
    simp [hLine, isLineTerminator, isLineBreak]
  have hIndent : stepIndent.toList.all isPlain = true := by decide
  rw [← h.not_isLineTerminator_iff, hSlashes, ← lex_comment_iff, ← hLine, String.toList_append,
    lex_plain (List.all_eq_true.1 hIndent)]
  cases lex isLineTerminator line.toList with
  | none => simp
  | some tokens => simp

/-! ## The comments of a step -/

/-- A line that is not bound to an element is not put into a frame. -/
theorem scope_free (frame : Option UInt64) (text : String) : scope frame [.free text] = [text] := by
  cases frame <;> rfl

/-- The comments that stand in place of instructions, and the texts that each of them holds. -/
inductive InertLine (index : Nat) (step : Json) : String → List String → Prop
  | unhandled {s : Step} {kind : String} (hDecode : Json.decodeValue Step.decode step = .ok s)
      (hKind : s.kind = .unknown kind) : InertLine index step (placeholder kind) [kind]
  | malformed {fault : Json.Fault} (hDecode : Json.decodeValue Step.decode step = .error fault) :
      InertLine index step
        (skippedLine index ((Recording.stepName? step).getD "?") (.malformed fault.message))
        [(Recording.stepName? step).getD "?", (StepProblem.malformed fault.message).message]
  | skipped {s : Step} {problem : StepProblem}
      (hDecode : Json.decodeValue Step.decode step = .ok s)
      (hEmit : emit s (choose s.selectors) = .error problem) :
      InertLine index step (skippedLine index s.kind.name problem) [s.kind.name, problem.message]
  | keyUp {s : Step} {line : String} (hDecode : Json.decodeValue Step.decode step = .ok s)
      (hKind : s.kind = .keyUp) (hLine : keyUp s = [.free line]) :
      InertLine index step line [s.key.getD "?"]

namespace InertLine

variable {index : Nat} {step : Json} {line : String} {texts : List String}

theorem flattens (h : InertLine index step line texts) : Flattens line texts := by
  cases h with
  | unhandled hDecode hKind => exact placeholder_flattens _
  | malformed hDecode => exact skippedLine_flattens _ _ _
  | skipped hDecode hEmit => exact skippedLine_flattens _ _ _
  | @keyUp s line hDecode hKind hLine =>
    obtain ⟨other, hOther, hFlattens⟩ := keyUp_flattens s
    rw [hLine] at hOther
    obtain rfl := Line.free.inj (List.singleton_inj.1 hOther)
    exact hFlattens

/-- Such a comment is all that there is of its step. -/
theorem stepBlock_eq (h : InertLine index step line texts) :
    (stepBlock index step).1 = [line] := by
  cases h with
  | unhandled hDecode hKind => simp [stepBlock, hDecode, emit, hKind]
  | malformed hDecode => simp [stepBlock, hDecode, skippedStep]
  | skipped hDecode hEmit => simp [stepBlock, hDecode, hEmit, skippedStep]
  | @keyUp s line hDecode hKind hLine =>
    have hEmit : emit s (choose s.selectors) = .ok (.code [line]) := by
      simp [emit, hKind, instructions, hLine, bind, Except.bind, scope_free]
    simp [stepBlock, hDecode, hEmit]

end InertLine

/-- Only a step of an unknown kind is left as a placeholder. -/
theorem unknown_of_placeholder {s : Step} {selector : Option String} {line : String}
    (h : emit s selector = .ok (.placeholder line)) : ∃ kind, s.kind = .unknown kind := by
  unfold emit at h
  split at h
  · next kind hKind => exact ⟨kind, hKind⟩
  · simp only [bind, Except.bind] at h
    split at h <;> simp at h

/-- A step with a diagnostic has such a comment. -/
theorem exists_inertLine {index : Nat} {step : Json} (h : (stepBlock index step).2.isSome) :
    ∃ line texts, InertLine index step line texts := by
  unfold stepBlock at h
  split at h
  · next fault hDecode => exact ⟨_, _, .malformed hDecode⟩
  · next s hDecode =>
    split at h
    · contradiction
    · next line hEmit =>
      obtain ⟨kind, hKind⟩ := unknown_of_placeholder hEmit
      exact ⟨_, _, .unhandled hDecode hKind⟩
    · next problem hEmit => exact ⟨_, _, .skipped hDecode hEmit⟩

/-- **What of a recording gets out of a comment.** A comment in place of instructions is a line of
the script on which neither a line feed nor a carriage return stands. It has no other line
terminator, and is one comment as a whole, exactly if no text that it holds has a line separator or
a paragraph separator in it. -/
theorem inertLine_comment_iff (r : Recording) (fallback : String) {before after : List Json}
    {step : Json} {line : String} {texts : List String}
    (hSteps : r.steps = before ++ step :: after)
    (hInert : InertLine (before.length + 1) step line texts) :
    stepIndent ++ line ∈ (ofRecording r fallback).lines ∧ BeginsComment line ∧
      (∀ c ∈ line.toList, isLineBreak c = false) ∧
      ((∀ c ∈ line.toList, isLineTerminator c = false) ↔ ∀ text ∈ texts, IsUnbroken text) ∧
      (lex isLineTerminator (stepIndent ++ line).toList =
          some (stepIndent.toList.map Token.code ++ [.comment]) ↔
        ∀ text ∈ texts, IsUnbroken text) := by
  have hFlattens := hInert.flattens
  refine ⟨?_, hFlattens.begins, hFlattens.not_isLineBreak, hFlattens.not_isLineTerminator_iff,
    hFlattens.lex_iff⟩
  rw [lines_around hSteps, indentedBlock, hInert.stepBlock_eq]
  simp

/-- A step of a kind that is not known, as it is recorded. -/
def unknownStep (kind : String) : Json := .object [("type", .string kind)]

/-- A name without separators stays in the comment. -/
theorem inertLine_comment_iff_wait :
    InertLine 1 (unknownStep "wait") (placeholder "wait") ["wait"] ∧
      lex isLineTerminator (stepIndent ++ placeholder "wait").toList =
        some (stepIndent.toList.map Token.code ++ [.comment]) := by
  have hInert : InertLine 1 (unknownStep "wait") (placeholder "wait") ["wait"] :=
    .unhandled (s := { kind := .unknown "wait" }) (by rfl) rfl
  have hUnbroken : ∀ text ∈ ["wait"], IsUnbroken text := by
    unfold IsUnbroken
    decide
  have hSteps : [unknownStep "wait"] = [] ++ unknownStep "wait" :: [] := rfl
  obtain ⟨-, -, -, -, hComment⟩ :=
    inertLine_comment_iff { steps := [unknownStep "wait"] } "t" hSteps hInert
  exact ⟨hInert, hComment.2 hUnbroken⟩

/-- A comment in place of instructions may hold a line terminator. -/
theorem inertLine_holds_separator :
    ¬ ∀ (r : Recording) (before after : List Json) (step : Json) (line : String)
      (texts : List String), r.steps = before ++ step :: after →
        InertLine (before.length + 1) step line texts →
          ∀ c ∈ line.toList, isLineTerminator c = false := by
  intro h
  have hInert : InertLine 1 (unknownStep "x\u2028y") (placeholder "x\u2028y") ["x\u2028y"] :=
    .unhandled (s := { kind := .unknown "x\u2028y" }) (by rfl) rfl
  have hNone := h { steps := [unknownStep "x\u2028y"] } [] [] _ _ _ rfl hInert '\u2028'
    (by decide)
  exact Bool.noConfusion hNone

end SessionReplay.Script
