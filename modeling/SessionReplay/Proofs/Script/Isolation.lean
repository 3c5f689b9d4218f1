import SessionReplay.Proofs.Script.Comments
import SessionReplay.Proofs.Script.Kinds

/-!
# Steps do not affect each other

The block of lines of a step and its diagnostic depend on nothing but the step and its index. A
script is made of them in the order of the steps.

* `diagnosticOf`: the diagnostic of a step, if it has one.
* `Unfit`: a step that cannot be decoded, is of an unknown kind, or lacks what its kind needs.
* `fit_or_unfit`: what a step has by itself, its block and perhaps its diagnostic.
* `ofRecording_steps`: the script of a recording is made of what its steps have.
-/

namespace SessionReplay.Script

/-! ## Every step has lines -/

section Kinds

variable {s : Step} {selector : Option String} {lines : List Line}

theorem act_ne_nil {action : String} {wait : List Line}
    (h : act s selector action wait = .ok lines) : lines ≠ [] := by
  obtain ⟨c, -, rfl⟩ := act_eq_ok.1 h
  simp

theorem setViewport_ne_nil (h : setViewport s = .ok lines) : lines ≠ [] := by
  obtain ⟨width, height, -, -, rfl⟩ := setViewport_eq_ok.1 h
  simp

theorem navigate_ne_nil (h : navigate s = .ok lines) : lines ≠ [] := by
  obtain ⟨url, -, rfl⟩ := navigate_eq_ok.1 h
  simp [visit]

theorem click_ne_nil (h : click s selector = .ok lines) : lines ≠ [] := by
  unfold click at h
  split at h
  · obtain rfl := Except.ok.inj h
    simp
  · exact act_ne_nil h

theorem change_ne_nil (h : change s selector = .ok lines) : lines ≠ [] := by
  unfold change at h
  split at h <;> exact act_ne_nil h

theorem keyDown_ne_nil (h : keyDown s selector = .ok lines) : lines ≠ [] := by
  obtain ⟨key, -, ⟨-, rfl⟩ | ⟨-, -, rfl⟩ | ⟨-, c, -, rfl⟩⟩ := keyDown_eq_ok.1 h <;> simp

theorem scroll_ne_nil (s : Step) (selector : Option String) : scroll s selector ≠ [] := by
  cases selector <;> simp [scroll]

theorem assertElement_ne_nil (h : assertElement s selector = .ok lines) : lines ≠ [] := by
  unfold assertElement at h
  split at h <;> exact act_ne_nil h

theorem instructions_ne_nil (hKind : ∀ kind, s.kind ≠ .unknown kind)
    (h : instructions s selector = .ok lines) : lines ≠ [] := by
  unfold instructions at h
  split at h
  case h_1 => exact setViewport_ne_nil h
  case h_2 => exact navigate_ne_nil h
  case h_3 => exact click_ne_nil h
  case h_8 => exact change_ne_nil h
  case h_9 => exact keyDown_ne_nil h
  case h_10 =>
    obtain rfl := Except.ok.inj h
    simp [keyUp]
  case h_11 =>
    obtain rfl := Except.ok.inj h
    exact scroll_ne_nil s selector
  case h_12 => exact assertElement_ne_nil h
  case h_13 kind hUnknown => exact absurd hUnknown (hKind kind)
  all_goals exact act_ne_nil h

end Kinds

/-- Lines that are put into a frame are not lost. -/
theorem scopeFrom_ne_nil {index : UInt64} {run : List String} {lines : List Line}
    (h : run ≠ [] ∨ lines ≠ []) : scopeFrom index run lines ≠ [] := by
  induction lines generalizing run with
  | nil =>
    have hRun : run ≠ [] := h.resolve_right (fun hNe => hNe rfl)
    simp [scopeFrom, closeRun, hRun, enclose]
  | cons line lines ih =>
    cases line with
    | bound text => exact ih (.inl (by simp))
    | free text => simp [scopeFrom]

theorem scope_ne_nil {frame : Option UInt64} {lines : List Line} (h : lines ≠ []) :
    scope frame lines ≠ [] := by
  cases frame with
  | none => simpa [scope] using h
  | some index => exact scopeFrom_ne_nil (.inr h)

theorem code_ne_nil {s : Step} {selector : Option String} {lines : List String}
    (h : emit s selector = .ok (.code lines)) : lines ≠ [] := by
  unfold emit at h
  split at h
  · cases h
  · next hKind =>
    simp only [bind, Except.bind] at h
    split at h
    · contradiction
    · next found hFound =>
      cases h
      exact scope_ne_nil (instructions_ne_nil hKind hFound)

/-- Every step, fit or not, has at least one line of its own. -/
theorem block_ne_nil (index : Nat) (step : Json) : (stepBlock index step).1 ≠ [] := by
  unfold stepBlock
  split
  · simp [skippedStep]
  · split
    · next hEmit => exact code_ne_nil hEmit
    · simp
    · simp [skippedStep]

/-! ## Diagnostics -/

/-- The diagnostic of a step, if it has one. -/
def diagnosticOf (index : Nat) (step : Json) : Option Diagnostic := (stepBlock index step).2

/-- A step without instructions: it cannot be decoded, its kind is not known, or it lacks what
its kind needs. -/
inductive Unfit (step : Json) : Prop
  | malformed {fault : Json.Fault} (hDecode : Json.decodeValue Step.decode step = .error fault)
  | unknown {s : Step} {kind : String} (hDecode : Json.decodeValue Step.decode step = .ok s)
      (hKind : s.kind = .unknown kind)
  | failing {s : Step} {problem : StepProblem}
      (hDecode : Json.decodeValue Step.decode step = .ok s)
      (hEmit : emit s (choose s.selectors) = .error problem)

theorem unfit_iff (index : Nat) (step : Json) :
    (diagnosticOf index step).isSome = true ↔ Unfit step := by
  constructor
  · intro h
    unfold diagnosticOf stepBlock at h
    split at h
    · next fault hDecode => exact .malformed hDecode
    · next s hDecode =>
      split at h
      · contradiction
      · next line hEmit =>
        obtain ⟨kind, hKind⟩ := unknown_of_placeholder hEmit
        exact .unknown hDecode hKind
      · next problem hEmit => exact .failing hDecode hEmit
  · intro h
    cases h with
    | malformed hDecode => simp [diagnosticOf, stepBlock, hDecode, skippedStep]
    | unknown hDecode hKind => simp [diagnosticOf, stepBlock, hDecode, emit, hKind]
    | failing hDecode hEmit => simp [diagnosticOf, stepBlock, hDecode, hEmit, skippedStep]

/-- A diagnostic carries the index of its step. -/
theorem index_of_mem_diagnosticOf {index : Nat} {step : Json} {d : Diagnostic}
    (h : d ∈ diagnosticOf index step) : d.index = index := by
  unfold diagnosticOf stepBlock at h
  split at h
  · cases h
    rfl
  · split at h
    · contradiction
    · cases h
      rfl
    · cases h
      rfl

/-- One line that is a comment from its first character to its last. -/
def IsCommentLine (line : String) : Prop :=
  BeginsComment line ∧ lex isLineBreak line.toList = some [.comment]

theorem Flattens.isCommentLine {line : String} {texts : List String} (h : Flattens line texts) :
    IsCommentLine line := by
  refine ⟨h.begins, ?_⟩
  obtain ⟨rest, hLine⟩ := h.begins
  rw [hLine, lex_comment_iff]
  intro c hMem
  exact h.not_isLineBreak c (by simp [hLine, hMem])

/-- A step with a diagnostic is left in the script as one comment. -/
theorem block_of_unfit (index : Nat) {step : Json} (h : Unfit step) :
    ∃ line, (stepBlock index step).1 = [line] ∧ IsCommentLine line := by
  obtain ⟨line, texts, hInert⟩ := exists_inertLine ((unfit_iff index step).2 h)
  exact ⟨line, hInert.stepBlock_eq, hInert.flattens.isCommentLine⟩

/-! ## Steps in order -/

/-- The diagnostics of steps, of which the first one has the index behind `count`. -/
def stepDiagnostics (count : Nat) (steps : List Json) : List Diagnostic :=
  (steps.zipIdx (count + 1)).filterMap fun p => diagnosticOf p.2 p.1

theorem stepDiagnostics_cons (count : Nat) (step : Json) (steps : List Json) :
    stepDiagnostics count (step :: steps) =
      (diagnosticOf (count + 1) step).toList ++ stepDiagnostics (count + 1) steps := by
  rw [stepDiagnostics, List.zipIdx_cons, List.filterMap_cons]
  cases diagnosticOf (count + 1) step <;> rfl

theorem stepDiagnostics_append (count : Nat) (before after : List Json) :
    stepDiagnostics count (before ++ after) =
      stepDiagnostics count before ++ stepDiagnostics (count + before.length) after := by
  have hCount : count + 1 + before.length = count + before.length + 1 := by omega
  rw [stepDiagnostics, List.zipIdx_append, List.filterMap_append, hCount]
  rfl

/-- The diagnostics of a draft to which steps are added. -/
theorem foldl_add_diagnostics (d : Draft) (steps : List Json) :
    (steps.foldl Draft.add d).diagnostics = d.diagnostics ++ stepDiagnostics d.count steps := by
  induction steps generalizing d with
  | nil => simp [stepDiagnostics]
  | cons step steps ih =>
    rw [List.foldl_cons, ih, stepDiagnostics_cons, ← List.append_assoc]
    rfl

theorem diagnostics_ofRecording (r : Recording) (fallback : String) :
    (ofRecording r fallback).diagnostics = stepDiagnostics 0 r.steps := by
  rw [ofRecording]
  exact foldl_add_diagnostics _ _

theorem stepLines_eq_flatMap (count : Nat) (steps : List Json) :
    stepLines count steps =
      (steps.zipIdx (count + 1)).flatMap fun p => indentedBlock p.2 p.1 := by
  induction steps generalizing count with
  | nil => rfl
  | cons step steps ih => rw [stepLines, List.zipIdx_cons, List.flatMap_cons, ih]

/-- The indices of diagnostics increase. -/
theorem stepDiagnostics_increasing (count : Nat) (steps : List Json) :
    (stepDiagnostics count steps).Pairwise (·.index < ·.index) := by
  have hIndices : (steps.zipIdx (count + 1)).Pairwise (·.2 < ·.2) := by
    rw [← List.pairwise_map, List.zipIdx_map_snd]
    exact List.pairwise_lt_range'
  rw [stepDiagnostics, List.pairwise_filterMap]
  refine hIndices.imp ?_
  intro p q hLt d hd e he
  rw [index_of_mem_diagnosticOf hd, index_of_mem_diagnosticOf he]
  exact hLt

/-- Around the block and the diagnostic of one step stands what the other steps make of it. -/
theorem ofRecording_around (r : Recording) (fallback : String) (before after : List Json)
    (step : Json) :
    ofRecording { r with steps := before ++ step :: after } fallback =
      ⟨nameOf r fallback,
        linesBefore r fallback before ++ indentedBlock (before.length + 1) step ++
          (stepLines (before.length + 1) after ++ closing),
        stepDiagnostics 0 before ++ (diagnosticOf (before.length + 1) step).toList ++
          stepDiagnostics (before.length + 1) after⟩ := by
  have hLines := lines_around (r := { r with steps := before ++ step :: after }) rfl fallback
  have hDiagnostics :=
    diagnostics_ofRecording { r with steps := before ++ step :: after } fallback
  rw [stepDiagnostics_append, stepDiagnostics_cons, Nat.zero_add, ← List.append_assoc]
    at hDiagnostics
  rw [← hDiagnostics]
  exact congrArg (fun lines => Script.mk _ lines _) hLines

/-- A step is fit and has lines, or it is unfit and has a comment and a diagnostic. -/
theorem fit_or_unfit (index : Nat) (step : Json) :
    (¬ Unfit step ∧ (stepBlock index step).1 ≠ [] ∧ diagnosticOf index step = none) ∨
      (Unfit step ∧ ∃ line d, (stepBlock index step).1 = [line] ∧ IsCommentLine line ∧
        diagnosticOf index step = some d ∧ d.index = index) := by
  by_cases hUnfit : Unfit step
  · right
    obtain ⟨line, hBlock, hComment⟩ := block_of_unfit index hUnfit
    obtain ⟨d, hDiagnostic⟩ := Option.isSome_iff_exists.1 ((unfit_iff index step).2 hUnfit)
    exact ⟨hUnfit, line, d, hBlock, hComment, hDiagnostic, index_of_mem_diagnosticOf hDiagnostic⟩
  · left
    have hNone : diagnosticOf index step = none := by
      rw [← Option.not_isSome_iff_eq_none, unfit_iff]
      exact hUnfit
    exact ⟨hUnfit, block_ne_nil index step, hNone⟩

/-- **Steps do not affect each other.** The lines of a script are those that its name and the
viewport fix, then the indented blocks of the steps in order, then the two closing lines. Its
diagnostics are those of the steps in order. Each step has a block and perhaps a diagnostic by
itself: a fit one has lines and no diagnostic, an unfit one has a single comment and a diagnostic
with its index. So all that another step in its place changes of the script is its block and its
diagnostic. -/
theorem ofRecording_steps (r : Recording) (fallback : String) :
    (ofRecording r fallback).lines =
      opening (ofRecording r fallback).name r.viewport ++
        ((r.steps.zipIdx 1).flatMap fun p => (stepBlock p.2 p.1).1.map ("    " ++ ·)) ++
        ["  \x7d);", "\x7d);"] ∧
    (ofRecording r fallback).diagnostics =
      ((r.steps.zipIdx 1).filterMap fun p => diagnosticOf p.2 p.1) ∧
    (ofRecording r fallback).diagnostics.Pairwise (·.index < ·.index) ∧
    (∀ index step,
      (¬ Unfit step ∧ (stepBlock index step).1 ≠ [] ∧ diagnosticOf index step = none) ∨
        (Unfit step ∧ ∃ line d, (stepBlock index step).1 = [line] ∧ IsCommentLine line ∧
          diagnosticOf index step = some d ∧ d.index = index)) ∧
    ∀ before after, ∃ linesBefore linesAfter diagnosticsBefore diagnosticsAfter, ∀ step,
      ofRecording { r with steps := before ++ step :: after } fallback =
        ⟨(ofRecording r fallback).name,
          linesBefore ++ indentedBlock (before.length + 1) step ++ linesAfter,
          diagnosticsBefore ++ (diagnosticOf (before.length + 1) step).toList ++
            diagnosticsAfter⟩ := by
  refine ⟨?_, diagnostics_ofRecording r fallback, ?_, fit_or_unfit, ?_⟩
  · rw [lines_ofRecording, stepLines_eq_flatMap]
    rfl
  · rw [diagnostics_ofRecording]
    exact stepDiagnostics_increasing 0 r.steps
  · intro before after
    exact ⟨_, _, _, _, ofRecording_around r fallback before after⟩

end SessionReplay.Script
