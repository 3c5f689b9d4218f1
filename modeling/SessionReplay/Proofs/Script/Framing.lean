import SessionReplay.Proofs.Script.Comments
import SessionReplay.Proofs.Script.Kinds

/-!
# Instructions inside a frame

A step that was recorded inside a frame has the instructions of the same step on the page itself.
Those that act on the element of the step are put into the scope of the frame, run by run, and all
others stay outside.

* `actsOn`: whether a line acts on the element, which shows in how it begins.
* `isPageLine`: whether a line is one of those that never do: a visit, a viewport, a key pressed or
  a scroll on the page, a wait, or a comment.
* `Placed`, `instructions_placed`: the instructions of a step, one case for each kind of step.
* `instructions_sorted`: which of them act on the element.
* `Framed`: lines and the same lines with each run of those that act on the element in a frame.
* `readFrames`: the lines inside and outside of the frames, without what makes the frames.
* `emit_inFrame`: what a step becomes inside a frame, given what it becomes on the page.
-/

namespace SessionReplay.Script

/-! ## Lines that act on the element -/

/-- The line begins with a text. -/
def Begins (start line : String) : Prop := start.toList <+: line.toList

theorem beginsWith_iff {start line : String} : beginsWith start line = true ↔ Begins start line :=
  List.isPrefixOf_iff_prefix

namespace Begins

variable {start line : String}

theorem self (start : String) : Begins start start := List.prefix_refl _

theorem append (h : Begins start line) (more : String) : Begins start (line ++ more) := by
  unfold Begins
  rw [String.toList_append]
  exact h.trans (List.prefix_append _ _)

end Begins

/-- A line acts on the element if it begins with the lookup of the element and goes on with a call
on what was found. -/
def actsOn (selector : Option String) (line : String) : Bool :=
  match selector with
  | some c => beginsWith (lookup c ++ ".") line
  | none => false

/-- How the lines begin that have nothing to do with the element. -/
def pageStarts : List String :=
  ["cy.visit(", "cy.viewport(", "cy.realPress(", "cy.scrollTo(", "cy.wait(", "//"]

def isPageLine (line : String) : Bool := pageStarts.any (beginsWith · line)

/-- A line that begins as a lookup does. -/
def IsLookup (line : String) : Prop := Begins "cy.get(" line ∨ Begins "cy.xpath(" line

theorem IsLookup.append {text : String} (h : IsLookup text) (more : String) :
    IsLookup (text ++ more) :=
  h.imp (·.append more) (·.append more)

theorem isLookup_lookup (c : String) : IsLookup (lookup c) := by
  unfold lookup
  split
  · exact .inr ((((Begins.self "cy.xpath(").append _).append _).append _ |>.append _)
  · exact .inl ((((Begins.self "cy.get(").append _).append _).append _ |>.append _)

/-- No line begins as a lookup and as a line of the page. -/
theorem IsLookup.isPageLine_eq_false {line : String} (h : IsLookup line) :
    isPageLine line = false := by
  obtain ⟨x, rest, hx, hLine⟩ : ∃ x rest, (x = 'g' ∨ x = 'x') ∧
      line.toList = 'c' :: 'y' :: '.' :: x :: rest := by
    rcases h with ⟨rest, hRest⟩ | ⟨rest, hRest⟩
    · exact ⟨'g', _, .inl rfl, hRest.symm⟩
    · exact ⟨'x', _, .inr rfl, hRest.symm⟩
  rcases hx with rfl | rfl <;>
    simp [isPageLine, pageStarts, beginsWith, hLine, List.isPrefixOf]

theorem isLookup_of_actsOn {selector : Option String} {line : String}
    (h : actsOn selector line = true) : IsLookup line := by
  cases selector with
  | none => contradiction
  | some c =>
    have hStart : IsLookup (lookup c ++ ".") := (isLookup_lookup c).append "."
    have hLine := beginsWith_iff.1 h
    exact hStart.imp (·.trans hLine) (·.trans hLine)

theorem actsOn_eq_false {line : String} (h : isPageLine line = true)
    (selector : Option String) : actsOn selector line = false := by
  rw [Bool.eq_false_iff]
  intro hActs
  simp [(isLookup_of_actsOn hActs).isPageLine_eq_false] at h

/-! ## Instructions by what they act on -/

/-- The text of a line that is bound acts on the element, that of a free one is a line of the
page. -/
def Sorted (selector : Option String) (lines : List Line) : Prop :=
  ∀ line ∈ lines, match line with
    | .bound text => actsOn selector text = true
    | .free text => isPageLine text = true

namespace Sorted

variable {selector : Option String} {lines : List Line}

/-- Every line acts on the element or is one of the page, and none is both. -/
theorem sides (h : Sorted selector lines) :
    ∀ text ∈ lines.map Line.text, actsOn selector text = !isPageLine text := by
  intro text hMem
  obtain ⟨line, hLine, rfl⟩ := List.mem_map.1 hMem
  have hOwn := h line hLine
  cases line with
  | bound text =>
    have hPage := (isLookup_of_actsOn hOwn).isPageLine_eq_false
    simp [Line.text, hOwn, hPage]
  | free text =>
    have hNot := actsOn_eq_false hOwn selector
    simp [Line.text, hOwn, hNot]

end Sorted

theorem isPageLine_of_begins {start line : String} (hStart : start ∈ pageStarts)
    (h : Begins start line) : isPageLine line = true :=
  List.any_eq_true.2 ⟨start, hStart, beginsWith_iff.2 h⟩

/-- A call on what the lookup of the element finds. -/
theorem actsOn_call {c line : String} (call : String) (h : line = lookup c ++ ("." ++ call)) :
    actsOn (some c) line = true := by
  refine beginsWith_iff.2 ⟨call.toList, ?_⟩
  simp [h]

theorem begins_viewportLine (width height : UInt32) :
    Begins "cy.viewport(" (viewportLine width height) :=
  ((((Begins.self "cy.viewport(").append _).append _).append _).append _

/-- How the lines of the page begin that do not set the viewport. -/
def restStarts : List String := ["cy.visit(", "cy.realPress(", "cy.scrollTo(", "cy.wait(", "//"]

/-- The lines of a step: a call on what the lookup of its element finds, the viewport where the step
sets that, and the other lines of the page. -/
inductive Placed (s : Step) (selector : Option String) : Line → Prop
  | call {c text : String} (hSelector : selector = some c) (call : String)
    (hText : text = lookup c ++ ("." ++ call)) : Placed s selector (.bound text)
  | viewport (hKind : s.kind = .setViewport) (width height : UInt32) :
    Placed s selector (.free (viewportLine width height))
  | rest (start : String) {text : String} (hStart : start ∈ restStarts)
    (hText : Begins start text) : Placed s selector (.free text)

section Kinds

variable {s : Step} {selector : Option String} {lines : List Line}

theorem longWait_placed : ∀ line ∈ [longWait], Placed s selector line :=
  List.forall_mem_singleton.2 (.rest "cy.wait(" (by decide) ⟨_, rfl⟩)

theorem shortWait_placed : ∀ line ∈ [shortWait], Placed s selector line :=
  List.forall_mem_singleton.2 (.rest "cy.wait(" (by decide) ⟨_, rfl⟩)

theorem visit_placed (url : String) : ∀ line ∈ visit url, Placed s selector line := by
  have hVisit : Begins "cy.visit(" ("cy.visit(" ++ quote url ++ ");") :=
    ((Begins.self _).append _).append _
  exact List.forall_mem_cons.2 ⟨.rest _ (by decide) hVisit,
    List.forall_mem_singleton.2 (.rest "cy.wait(" (by decide) ⟨_, rfl⟩)⟩

theorem act_placed {action : String} {wait : List Line}
    (hWait : ∀ line ∈ wait, Placed s selector line)
    (h : act s selector action wait = .ok lines) : ∀ line ∈ lines, Placed s selector line := by
  obtain ⟨c, hSelector, rfl⟩ := act_eq_ok.1 h
  exact List.forall_mem_cons.2
    ⟨.call hSelector (action ++ ";") (by simp [String.append_assoc]), hWait⟩

theorem setViewport_placed (hKind : s.kind = .setViewport) (h : setViewport s = .ok lines) :
    ∀ line ∈ lines, Placed s selector line := by
  obtain ⟨width, height, -, -, rfl⟩ := setViewport_eq_ok.1 h
  exact List.forall_mem_singleton.2 (.viewport hKind width height)

theorem navigate_placed (h : navigate s = .ok lines) :
    ∀ line ∈ lines, Placed s selector line := by
  obtain ⟨url, -, rfl⟩ := navigate_eq_ok.1 h
  exact visit_placed url

theorem click_placed (h : click s selector = .ok lines) :
    ∀ line ∈ lines, Placed s selector line := by
  unfold click at h
  split at h
  · obtain rfl := Except.ok.inj h
    exact List.forall_mem_cons.2
      ⟨.rest "//" (by decide) ⟨_, rfl⟩, visit_placed _⟩
  · exact act_placed longWait_placed h

theorem change_placed (h : change s selector = .ok lines) :
    ∀ line ∈ lines, Placed s selector line := by
  unfold change at h
  split at h <;> exact act_placed longWait_placed h

theorem keyDown_placed (h : keyDown s selector = .ok lines) :
    ∀ line ∈ lines, Placed s selector line := by
  have hPress (key : String) : Placed s selector (pressLine key) :=
    .rest _ (by decide) (((Begins.self "cy.realPress(").append _).append _)
  obtain ⟨key, -, ⟨-, rfl⟩ | ⟨-, -, rfl⟩ | ⟨-, c, hSelector, rfl⟩⟩ := keyDown_eq_ok.1 h
  · exact List.forall_mem_cons.2 ⟨hPress key, longWait_placed⟩
  · exact List.forall_mem_singleton.2 (hPress key)
  · have hCall : lookup c ++ ".realType(" ++ quote key ++ ");" =
        lookup c ++ ("." ++ ("realType(" ++ quote key ++ ");")) := by
      simp [← String.toList_inj]
    exact List.forall_mem_cons.2 ⟨.call hSelector _ hCall, shortWait_placed⟩

theorem keyUp_placed (s : Step) : ∀ line ∈ keyUp s, Placed s selector line := by
  obtain ⟨line, hLine, hFlattens⟩ := keyUp_flattens s
  obtain ⟨rest, hRest⟩ := hFlattens.begins
  rw [hLine]
  exact List.forall_mem_singleton.2 (.rest "//" (by decide) ⟨rest, hRest.symm⟩)

theorem scroll_placed (s : Step) (selector : Option String) :
    ∀ line ∈ scroll s selector, Placed s selector line := by
  cases selector with
  | none =>
    have hText (x y : String) : "cy." ++ ("scrollTo(" ++ x ++ ", " ++ y ++ ");") =
        "cy.scrollTo(" ++ (x ++ ", " ++ y ++ ");") := by
      simp [← String.toList_inj]
    refine List.forall_mem_singleton.2 (.rest "cy.scrollTo(" (by decide) ?_)
    rw [hText]
    exact (Begins.self _).append _
  | some c => exact List.forall_mem_singleton.2 (.call rfl _ (String.append_assoc ..))

theorem assertElement_placed (h : assertElement s selector = .ok lines) :
    ∀ line ∈ lines, Placed s selector line := by
  unfold assertElement at h
  split at h <;> exact act_placed (by simp) h

theorem instructions_placed (h : instructions s selector = .ok lines) :
    ∀ line ∈ lines, Placed s selector line := by
  unfold instructions at h
  cases hKind : s.kind with
  | setViewport => exact setViewport_placed hKind (by simpa [hKind] using h)
  | navigate => exact navigate_placed (by simpa [hKind] using h)
  | click => exact click_placed (by simpa [hKind] using h)
  | change => exact change_placed (by simpa [hKind] using h)
  | keyDown => exact keyDown_placed (by simpa [hKind] using h)
  | assert => exact assertElement_placed (by simpa [hKind] using h)
  | keyUp =>
    simp only [hKind] at h
    exact Except.ok.inj h ▸ keyUp_placed s
  | scroll =>
    simp only [hKind] at h
    exact Except.ok.inj h ▸ scroll_placed s selector
  | unknown name =>
    simp only [hKind] at h
    obtain rfl := Except.ok.inj h
    simp
  | doubleClick | submit =>
    simp only [hKind] at h
    exact act_placed longWait_placed h
  | hover =>
    simp only [hKind] at h
    exact act_placed shortWait_placed h
  | waitForElement =>
    simp only [hKind] at h
    exact act_placed (by simp) h

/-- The bound instructions of a step are those that act on its element, and the free ones those that
have nothing to do with it. -/
theorem instructions_sorted (h : instructions s selector = .ok lines) : Sorted selector lines := by
  have hRest : ∀ start ∈ restStarts, start ∈ pageStarts := by decide
  intro line hMem
  cases instructions_placed h line hMem with
  | call hSelector call hText => exact hSelector ▸ actsOn_call call hText
  | viewport _ width height =>
    exact isPageLine_of_begins (by decide) (begins_viewportLine width height)
  | rest _ hStart hText => exact isPageLine_of_begins (hRest _ hStart) hText

end Kinds

/-! ## Frames around runs -/

/-- Lines, and the same lines with each longest run of those that act on the element enclosed once.
A run ends where the lines end or where a line does not act on the element. -/
inductive Framed (acts : String → Bool) (index : UInt64) : List String → List String → Prop
  | nil : Framed acts index [] []
  | outside {line : String} {code framed : List String} (hLine : acts line = false)
      (hRest : Framed acts index code framed) : Framed acts index (line :: code) (line :: framed)
  | inside {run code framed : List String} (hRun : run ≠ [])
      (hActs : ∀ line ∈ run, acts line = true) (hEnd : ∀ line ∈ code.head?, acts line = false)
      (hRest : Framed acts index code framed) :
      Framed acts index (run ++ code) (enclose index run ++ framed)

/-- A run that is open and the lines behind it are framed together. -/
theorem framed_scopeFrom {selector : Option String} (index : UInt64) {run : List String}
    {lines : List Line} (hRun : ∀ line ∈ run, actsOn selector line = true)
    (hLines : Sorted selector lines) :
    Framed (actsOn selector) index (run ++ lines.map Line.text) (scopeFrom index run lines) := by
  induction lines generalizing run with
  | nil =>
    by_cases hEmpty : run = []
    · subst hEmpty
      exact .nil
    · have hClosed : scopeFrom index run [] = enclose index run ++ [] := by
        simp [scopeFrom, closeRun, hEmpty]
      have hEnd : ∀ line ∈ ([] : List String).head?, actsOn selector line = false := by simp
      rw [hClosed]
      exact .inside hEmpty hRun hEnd .nil
  | cons line rest ih =>
    have hRest : Sorted selector rest := fun line hMem => hLines line (List.mem_cons_of_mem _ hMem)
    cases line with
    | bound text =>
      have hText : actsOn selector text = true := hLines _ List.mem_cons_self
      have hLonger : ∀ line ∈ run ++ [text], actsOn selector line = true := by
        simpa [or_imp, forall_and] using ⟨hRun, hText⟩
      have hOpen := ih hLonger hRest
      rwa [List.append_assoc] at hOpen
    | free text =>
      have hText : actsOn selector text = false := actsOn_eq_false (hLines _ List.mem_cons_self) _
      have hBehind : Framed (actsOn selector) index (text :: rest.map Line.text)
          (text :: scopeFrom index [] rest) := .outside hText (ih (List.forall_mem_nil _) hRest)
      by_cases hEmpty : run = []
      · subst hEmpty
        exact hBehind
      · have hClosed : scopeFrom index run (.free text :: rest) =
            enclose index run ++ text :: scopeFrom index [] rest := by
          simp [scopeFrom, closeRun, hEmpty]
        rw [hClosed]
        exact .inside hEmpty hRun (by simpa [Line.text] using hText) hBehind

/-! ## Reading frames -/

/-- The lines with whether they stand inside a frame, without the lines that open and close the
frames and without the indent inside of them; the second argument says where the first line is. -/
def readFrames (index : UInt64) : Bool → List String → List (String × Bool)
  | _, [] => []
  | false, line :: rest =>
    if line = frameOpening index then readFrames index true rest
    else (line, false) :: readFrames index false rest
  | true, line :: rest =>
    if line = frameClosing then readFrames index false rest
    else (String.ofList (line.toList.drop 2), true) :: readFrames index true rest

theorem readFrames_run (index : UInt64) (run rest : List String) :
    readFrames index true (run.map ("  " ++ ·) ++ frameClosing :: rest) =
      run.map (·, true) ++ readFrames index false rest := by
  induction run with
  | nil => simp [readFrames]
  | cons line run ih =>
    have hOther : "  " ++ line ≠ frameClosing := by
      intro hEq
      simpa [frameClosing] using congrArg String.toList hEq
    have hInner : String.ofList (("  " ++ line).toList.drop 2) = line := by simp
    rw [List.map_cons, List.cons_append, readFrames, if_neg hOther, hInner, ih]
    rfl

/-- The lines that are framed are read back, inside exactly where they act on the element. -/
theorem Framed.readFrames_eq {acts : String → Bool} {index : UInt64} {code framed : List String}
    (h : Framed acts index code framed)
    (hCode : ∀ line ∈ code, acts line = false → line ≠ frameOpening index) :
    readFrames index false framed = code.map fun line => (line, acts line) := by
  induction h with
  | nil => rfl
  | @outside line code framed hLine _ ih =>
    rw [readFrames, if_neg (hCode line List.mem_cons_self hLine),
      ih fun line hMem => hCode line (List.mem_cons_of_mem _ hMem), List.map_cons, hLine]
  | @inside run code framed _ hActs _ _ ih =>
    have hRun : run.map (fun line => (line, acts line)) = run.map (·, true) :=
      List.map_congr_left fun line hMem => by rw [hActs line hMem]
    have hFrame : enclose index run ++ framed =
        frameOpening index :: (run.map ("  " ++ ·) ++ frameClosing :: framed) := by
      simp [enclose]
    rw [hFrame, readFrames, if_pos rfl, readFrames_run,
      ih fun line hMem => hCode line (List.mem_append_right run hMem), List.map_append, hRun]

theorem isLookup_frameOpening (index : UInt64) : IsLookup (frameOpening index) :=
  .append (.append (.inl ⟨_, rfl⟩) _) _

/-! ## Steps inside frames -/

theorem emit_of_unknown {s : Step} {name : String} (h : s.kind = .unknown name)
    (selector : Option String) : emit s selector = .ok (.placeholder (placeholder name)) := by
  simp [emit, h]

theorem emit_of_known {s : Step} (h : ∀ name, s.kind ≠ .unknown name)
    (selector : Option String) :
    emit s selector =
      (fun lines => .code (scope s.frameIndex lines)) <$> instructions s selector := by
  unfold emit
  split
  · next name hKind => exact absurd hKind (h name)
  · cases instructions s selector <;> rfl

/-- **Exactly the lines that act on the element are put into the frame.** Inside a frame a step has
the same problem or the same placeholder as on the page. If it has instructions, they are those that
it has on the page, with each longest run of lines that act on the element enclosed once in the
scope of this frame: without what makes the frames they are the same lines, and a line stands inside
exactly if it acts on the element. Each line that does not is a visit, a viewport, a key or a scroll
on the page, a wait or a comment. Only the first frame of the path counts. -/
theorem emit_inFrame (s : Step) (selector : Option String) (index : UInt64)
    (path : List UInt64) :
    (∀ problem, emit { s with frame := index :: path } selector = .error problem ↔
      emit { s with frame := [] } selector = .error problem) ∧
    (∀ line, emit { s with frame := index :: path } selector = .ok (.placeholder line) ↔
      emit { s with frame := [] } selector = .ok (.placeholder line)) ∧
    (∀ framed, emit { s with frame := index :: path } selector = .ok (.code framed) →
      ∃ code, emit { s with frame := [] } selector = .ok (.code code) ∧
        Framed (actsOn selector) index code framed ∧
        readFrames index false framed = code.map (fun line => (line, actsOn selector line)) ∧
        ∀ line ∈ code, actsOn selector line = !isPageLine line) ∧
    ∀ path', emit { s with frame := index :: path' } selector =
      emit { s with frame := index :: path } selector := by
  by_cases hKind : ∃ name, s.kind = .unknown name
  · obtain ⟨name, hKind⟩ := hKind
    have hEmit (frame : List UInt64) :
        emit { s with frame } selector = .ok (.placeholder (placeholder name)) :=
      emit_of_unknown (s := { s with frame }) hKind selector
    simp [hEmit]
  · have hKnown : ∀ name, s.kind ≠ .unknown name := fun name hEq => hKind ⟨name, hEq⟩
    have hEmit (frame : List UInt64) : emit { s with frame } selector =
        (fun lines => .code (scope frame.head? lines)) <$> instructions s selector :=
      emit_of_known (s := { s with frame }) hKnown selector
    simp only [hEmit]
    cases hLines : instructions s selector with
    | error problem => simp [Functor.map, Except.map]
    | ok lines =>
      have hSorted := instructions_sorted hLines
      have hFramed : Framed (actsOn selector) index (lines.map Line.text)
          (scopeFrom index [] lines) := framed_scopeFrom index (List.forall_mem_nil _) hSorted
      have hOutside : ∀ line ∈ lines.map Line.text, actsOn selector line = false →
          line ≠ frameOpening index := by
        rintro line hMem hNot rfl
        have hPage := hSorted.sides _ hMem
        rw [hNot, (isLookup_frameOpening index).isPageLine_eq_false] at hPage
        contradiction
      refine ⟨by simp [Functor.map, Except.map], by simp [Functor.map, Except.map], ?_, ?_⟩
      · intro framed hCode
        obtain rfl := Emission.code.inj (Except.ok.inj hCode)
        exact ⟨_, rfl, hFramed, hFramed.readFrames_eq hOutside, hSorted.sides⟩
      · exact fun _ => rfl

/-- A click inside a frame of a frame, which is put into the outer one without its wait. -/
theorem emit_inFrame_click :
    let click : Step := { kind := .click, frame := [1, 3] }
    let call := "cy.get('#in', \x7b timeout: 10000 \x7d).should('exist').first().click();"
    let framed := [frameOpening 1, "  " ++ call, frameClosing, "cy.wait(1000);"]
    emit click (some "#in") = .ok (.code framed) ∧
      emit { click with frame := [] } (some "#in") = .ok (.code [call, "cy.wait(1000);"]) ∧
      readFrames 1 false framed = [(call, true), ("cy.wait(1000);", false)] := by
  intro click call framed
  have hFrame : emit click (some "#in") = .ok (.code framed) := by decide +kernel
  have hPage : emit { click with frame := [] } (some "#in") =
      .ok (.code [call, "cy.wait(1000);"]) := by decide +kernel
  obtain ⟨code, hCode, -, hRead, -⟩ := (emit_inFrame click (some "#in") 1 [3]).2.2.1 framed hFrame
  obtain rfl := Emission.code.inj (Except.ok.inj (hPage.symm.trans hCode))
  exact ⟨hFrame, hPage, hRead.trans (by decide +kernel)⟩

end SessionReplay.Script
