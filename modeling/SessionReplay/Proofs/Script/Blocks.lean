import SessionReplay.Proofs.Script.Comments
import SessionReplay.Proofs.Script.Kinds

/-!
# The blocks of the steps

The lines of a step open no bracket that they do not close, and close none that was open before,
whatever text of the recording they hold.

* `ReadsBlock`: lines between given brackets, none of which holds a line feed.
* `IsClosedBlock`: lines that leave all brackets as they are.
* `instructions_closed`: one case for each kind of step.
* `scope_closed`: frames around runs of lines.
* `stepBlock_closed`: the block of a step, with instructions or without.
-/

namespace SessionReplay.Script

/-! ## Blocks -/

/-- Lines that are read with the first brackets to be closed and leave the others. None of them
holds a line feed. -/
structure ReadsBlock (stack next : List Char) (lines : List String) : Prop where
  single : ∀ line ∈ lines, '\n' ∉ line.toList
  scan : scanLines stack lines = some next

namespace ReadsBlock

variable {stack middle next : List Char}

theorem nil : ReadsBlock stack stack [] := ⟨by simp, rfl⟩

theorem of_line {line : String} (h : ReadsLine stack next line) : ReadsBlock stack next [line] where
  single := by simpa using h.single
  scan := by simp [scanLines, h.scan]

theorem append {before after : List String} (hBefore : ReadsBlock stack middle before)
    (hAfter : ReadsBlock middle next after) : ReadsBlock stack next (before ++ after) where
  single line hMem := (List.mem_append.1 hMem).elim (hBefore.single line) (hAfter.single line)
  scan := by
    rw [scanLines_append, hBefore.scan]
    exact hAfter.scan

/-- An indented block is read like the block. -/
theorem indent {indent : String} (hIndent : ∀ stack, Reads stack stack indent)
    {lines : List String} (h : ReadsBlock stack next lines) :
    ReadsBlock stack next (lines.map (indent ++ ·)) where
  single line hMem := by
    obtain ⟨inner, hInner, rfl⟩ := List.mem_map.1 hMem
    simpa using ⟨(hIndent []).single, h.single inner hInner⟩
  scan := by
    rw [scanLines_indent (fun stack => (hIndent stack).scan), h.scan]

end ReadsBlock

/-- Lines that open no bracket that they do not close, and close none that they did not open. -/
def IsClosedBlock (lines : List String) : Prop := ∀ stack, ReadsBlock stack stack lines

namespace IsClosedBlock

theorem nil : IsClosedBlock [] := fun _ => .nil

theorem append {before after : List String} (hBefore : IsClosedBlock before)
    (hAfter : IsClosedBlock after) : IsClosedBlock (before ++ after) :=
  fun stack => (hBefore stack).append (hAfter stack)

theorem of_line {line : String} (h : IsClosed line) : IsClosedBlock [line] :=
  fun stack => .of_line (h stack)

theorem of_lines {lines : List String} (h : ∀ line ∈ lines, IsClosed line) :
    IsClosedBlock lines := by
  induction lines with
  | nil => exact nil
  | cons line lines ih =>
    rw [List.forall_mem_cons] at h
    exact append (of_line h.1) (ih h.2)

theorem indent {indent : String} (hIndent : ∀ stack, Reads stack stack indent)
    {lines : List String} (h : IsClosedBlock lines) : IsClosedBlock (lines.map (indent ++ ·)) :=
  fun stack => (h stack).indent hIndent

end IsClosedBlock

/-! ## Parts of instructions -/

def ClosedLines (lines : List Line) : Prop := ∀ line ∈ lines, IsClosed line.text

theorem ClosedLines.nil : ClosedLines [] := by simp [ClosedLines]

theorem ClosedLines.cons {line : Line} {lines : List Line} (hLine : IsClosed line.text)
    (hLines : ClosedLines lines) : ClosedLines (line :: lines) :=
  List.forall_mem_cons.2 ⟨hLine, hLines⟩

theorem isClosed_of_reads {text : String} (h : ∀ stack, Reads stack stack text) : IsClosed text :=
  fun stack => (h stack).line

theorem navigationWait_closed : ClosedLines [navigationWait] :=
  .cons (fun _ => ⟨by decide, rfl⟩) .nil

theorem longWait_closed : ClosedLines [longWait] := .cons (fun _ => ⟨by decide, rfl⟩) .nil

theorem shortWait_closed : ClosedLines [shortWait] := .cons (fun _ => ⟨by decide, rfl⟩) .nil

theorem reads_viewportLine (width height : UInt32) (stack : List Char) :
    Reads stack stack (viewportLine width height) := by
  have hOpen : Reads stack (')' :: stack) "cy.viewport(" := ⟨by decide, rfl⟩
  have hComma : Reads (')' :: stack) (')' :: stack) ", " := ⟨by decide, rfl⟩
  have hClose : Reads (')' :: stack) stack ");" := ⟨by decide, rfl⟩
  exact (((hOpen.append (reads_nat _ _)).append hComma).append (reads_nat _ _)).append hClose

/-- A call whose only argument is a text. -/
theorem reads_call {function text : String} {stack : List Char} {close : String}
    (hFunction : Reads stack (')' :: stack) function)
    (hClose : Reads (')' :: stack) stack close) :
    Reads stack stack (function ++ quote text ++ close) :=
  (hFunction.append (reads_quote _ _)).append hClose

theorem visit_closed (url : String) : ClosedLines (visit url) :=
  .cons (isClosed_of_reads fun _ => reads_call ⟨by decide, rfl⟩ ⟨by decide, rfl⟩)
    navigationWait_closed

theorem act_closed {s : Step} {selector : Option String} {action : String}
    {wait lines : List Line} (hAction : ∀ stack, Reads stack stack action)
    (hWait : ClosedLines wait) (h : act s selector action wait = .ok lines) :
    ClosedLines lines := by
  obtain ⟨c, -, rfl⟩ := act_eq_ok.1 h
  refine .cons (isClosed_of_reads fun stack => ?_) hWait
  have hDot : Reads stack stack "." := ⟨by decide, rfl⟩
  have hEnd : Reads stack stack ";" := ⟨by decide, rfl⟩
  exact (((reads_lookup c stack).append hDot).append (hAction stack)).append hEnd

/-! ## Kinds of steps -/

section Kinds

variable {s : Step} {selector : Option String} {lines : List Line}

theorem setViewport_closed (h : setViewport s = .ok lines) : ClosedLines lines := by
  obtain ⟨width, height, -, -, rfl⟩ := setViewport_eq_ok.1 h
  exact .cons (isClosed_of_reads fun stack => reads_viewportLine width height stack) .nil

theorem navigate_closed (h : navigate s = .ok lines) : ClosedLines lines := by
  obtain ⟨url, -, rfl⟩ := navigate_eq_ok.1 h
  exact visit_closed url

theorem click_closed (h : click s selector = .ok lines) : ClosedLines lines := by
  unfold click at h
  split at h
  · obtain rfl := Except.ok.inj h
    exact .cons (fun _ => ⟨by decide, rfl⟩) (visit_closed _)
  · exact act_closed (fun _ => ⟨by decide, rfl⟩) longWait_closed h

theorem change_closed (h : change s selector = .ok lines) : ClosedLines lines := by
  unfold change at h
  split at h
  · refine act_closed (fun stack => ?_) longWait_closed h
    exact reads_call ⟨by decide, rfl⟩ ⟨by decide, rfl⟩
  · exact act_closed (fun _ => ⟨by decide, rfl⟩) longWait_closed h

theorem keyDown_closed (h : keyDown s selector = .ok lines) : ClosedLines lines := by
  have hPress : ∀ key, IsClosed (pressLine key).text := by
    intro key
    exact isClosed_of_reads fun _ => reads_call ⟨by decide, rfl⟩ ⟨by decide, rfl⟩
  obtain ⟨key, -, ⟨-, rfl⟩ | ⟨-, -, rfl⟩ | ⟨-, c, -, rfl⟩⟩ := keyDown_eq_ok.1 h
  · exact .cons (hPress key) longWait_closed
  · exact .cons (hPress key) .nil
  · refine .cons (isClosed_of_reads fun stack => ?_) shortWait_closed
    have hType : Reads stack (')' :: stack) ".realType(" := ⟨by decide, rfl⟩
    have hClose : Reads (')' :: stack) stack ");" := ⟨by decide, rfl⟩
    exact (((reads_lookup c stack).append hType).append (reads_quote _ _)).append hClose

theorem keyUp_closed (s : Step) : ClosedLines (keyUp s) := by
  obtain ⟨line, hLine, hFlattens⟩ := keyUp_flattens s
  rw [hLine]
  exact .cons hFlattens.isClosed .nil

theorem scroll_closed (s : Step) (selector : Option String) : ClosedLines (scroll s selector) := by
  have hCall : ∀ stack, Reads stack stack ("scrollTo(" ++
      coordinateStyle.write (s.scroll.getD default).x ++ ", " ++
        coordinateStyle.write (s.scroll.getD default).y ++ ");") := by
    intro stack
    have hOpen : Reads stack (')' :: stack) "scrollTo(" := ⟨by decide, rfl⟩
    have hComma : Reads (')' :: stack) (')' :: stack) ", " := ⟨by decide, rfl⟩
    have hClose : Reads (')' :: stack) stack ");" := ⟨by decide, rfl⟩
    exact (((hOpen.append (reads_coordinate _ _)).append hComma).append
      (reads_coordinate _ _)).append hClose
  cases selector with
  | none =>
    refine .cons (isClosed_of_reads fun stack => ?_) .nil
    have hPage : Reads stack stack "cy." := ⟨by decide, rfl⟩
    exact hPage.append (hCall stack)
  | some selector =>
    refine .cons (isClosed_of_reads fun stack => ?_) .nil
    have hDot : Reads stack stack "." := ⟨by decide, rfl⟩
    exact ((reads_lookup selector stack).append hDot).append (hCall stack)

theorem assertElement_closed (h : assertElement s selector = .ok lines) : ClosedLines lines := by
  unfold assertElement at h
  split at h
  · refine act_closed (fun stack => ?_) .nil h
    have hOpen : Reads stack (')' :: stack) "should(" := ⟨by decide, rfl⟩
    have hComma : Reads (')' :: stack) (')' :: stack) ", " := ⟨by decide, rfl⟩
    have hClose : Reads (')' :: stack) stack ")" := ⟨by decide, rfl⟩
    exact (((hOpen.append (reads_quote _ _)).append hComma).append (reads_quote _ _)).append hClose
  · refine act_closed (fun stack => ?_) .nil h
    exact reads_call ⟨by decide, rfl⟩ ⟨by decide, rfl⟩

theorem instructions_closed (h : instructions s selector = .ok lines) : ClosedLines lines := by
  unfold instructions at h
  cases hKind : s.kind with
  | setViewport => exact setViewport_closed (by simpa [hKind] using h)
  | navigate => exact navigate_closed (by simpa [hKind] using h)
  | click => exact click_closed (by simpa [hKind] using h)
  | doubleClick =>
    simp only [hKind] at h
    exact act_closed (fun _ => ⟨by decide, rfl⟩) longWait_closed h
  | change => exact change_closed (by simpa [hKind] using h)
  | keyDown => exact keyDown_closed (by simpa [hKind] using h)
  | keyUp =>
    simp only [hKind] at h
    exact Except.ok.inj h ▸ keyUp_closed s
  | submit =>
    simp only [hKind] at h
    exact act_closed (fun _ => ⟨by decide, rfl⟩) longWait_closed h
  | scroll =>
    simp only [hKind] at h
    exact Except.ok.inj h ▸ scroll_closed s selector
  | hover =>
    simp only [hKind] at h
    exact act_closed (fun _ => ⟨by decide, rfl⟩) shortWait_closed h
  | waitForElement =>
    simp only [hKind] at h
    exact act_closed (fun _ => ⟨by decide, rfl⟩) .nil h
  | assert => exact assertElement_closed (by simpa [hKind] using h)
  | unknown name =>
    simp only [hKind] at h
    exact Except.ok.inj h ▸ .nil

end Kinds

/-! ## Frames -/

theorem frameOpening_reads (index : UInt64) (stack : List Char) :
    Reads stack ('\x7d' :: ')' :: stack) (frameOpening index) := by
  have hFrame : Reads stack (')' :: stack) "cy.get('iframe').eq(" := ⟨by decide, rfl⟩
  have hBody : Reads (')' :: stack) ('\x7d' :: ')' :: stack)
      ").its('0.contentDocument.body').should('not.be.empty').then(cy.wrap).within(() => \x7b" :=
    ⟨by decide, rfl⟩
  exact (hFrame.append (reads_nat _ _)).append hBody

/-- A frame closes the brackets that it opens. -/
theorem enclose_closed (index : UInt64) {lines : List String} (h : IsClosedBlock lines) :
    IsClosedBlock (enclose index lines) := by
  intro stack
  have hOpening : ReadsBlock stack ('\x7d' :: ')' :: stack) [frameOpening index] :=
    .of_line (frameOpening_reads index stack).line
  have hIndent : ∀ stack, Reads stack stack "  " := fun _ => ⟨by decide, rfl⟩
  have hBody := h.indent hIndent
  have hClosing : ReadsBlock ('\x7d' :: ')' :: stack) stack [frameClosing] :=
    .of_line ⟨by decide, rfl⟩
  exact (hOpening.append (hBody _)).append hClosing

theorem closeRun_closed (index : UInt64) {run : List String} (h : IsClosedBlock run) :
    IsClosedBlock (closeRun index run) := by
  unfold closeRun
  split
  · exact .nil
  · exact enclose_closed index h

theorem scopeFrom_closed (index : UInt64) {run : List String} {lines : List Line}
    (hRun : IsClosedBlock run) (hLines : ClosedLines lines) :
    IsClosedBlock (scopeFrom index run lines) := by
  induction lines generalizing run with
  | nil => exact closeRun_closed index hRun
  | cons line lines ih =>
    obtain ⟨hLine, hRest⟩ := List.forall_mem_cons.1 hLines
    cases line with
    | bound text => exact ih (hRun.append (.of_line hLine)) hRest
    | free text =>
      exact (closeRun_closed index hRun).append ((IsClosedBlock.of_line hLine).append
        (ih .nil hRest))

theorem scope_closed (frame : Option UInt64) {lines : List Line} (h : ClosedLines lines) :
    IsClosedBlock (scope frame lines) := by
  cases frame with
  | none =>
    refine .of_lines fun line hMem => ?_
    obtain ⟨inner, hInner, rfl⟩ := List.mem_map.1 hMem
    exact h inner hInner
  | some index => exact scopeFrom_closed index .nil h

/-! ## Blocks of steps -/

theorem emit_closed {s : Step} {selector : Option String} {lines : List String}
    (h : emit s selector = .ok (.code lines)) : IsClosedBlock lines := by
  unfold emit at h
  split at h
  · simp at h
  · simp only [bind, Except.bind] at h
    split at h
    · contradiction
    · next inner hInner =>
      obtain rfl := Emission.code.inj (Except.ok.inj h)
      exact scope_closed _ (instructions_closed hInner)

/-- The block of a step leaves all brackets as they are, whatever the step holds. -/
theorem stepBlock_closed (index : Nat) (step : Json) :
    IsClosedBlock (stepBlock index step).1 := by
  cases hDiagnostic : (stepBlock index step).2 with
  | some diagnostic =>
    obtain ⟨line, texts, hInert⟩ := exists_inertLine (by rw [hDiagnostic]; rfl)
    rw [hInert.stepBlock_eq]
    exact .of_line hInert.flattens.isClosed
  | none =>
    unfold stepBlock at hDiagnostic ⊢
    split at hDiagnostic
    · contradiction
    · next s hDecode =>
      split at hDiagnostic
      · next lines hEmit => exact emit_closed hEmit
      · contradiction
      · contradiction

end SessionReplay.Script
