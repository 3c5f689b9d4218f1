import SessionReplay.Proofs.Script.Framing
import SessionReplay.Proofs.Script.Isolation

/-!
# What steps have to have

A step becomes a placeholder if its kind is not known, has a problem if it lacks what its kind
needs, and has instructions in all other cases.

* `LacksField`: a field that the kind of the step needs is not there.
* `NeedsElement`: the step does nothing without an element.
* `Wants`: the problem of a step, from what it lacks.
* `instructions_eq_error`: the problems of the steps of each kind.
* `emit_outcomes`: what becomes of a step, in all cases.
-/

namespace SessionReplay.Script

/-! ## Requirements -/

/-- A field that the kind of the step needs is absent, empty or zero. The height is looked at where
the width is there. -/
@[mk_iff]
inductive LacksField (s : Step) : String → Prop
  | width (hKind : s.kind = .setViewport) (hWidth : s.width = none ∨ s.width = some 0) :
    LacksField s "width"
  | height {width : UInt32} (hKind : s.kind = .setViewport) (hWidth : s.width = some width)
    (hPositive : 0 < width) (hHeight : s.height = none ∨ s.height = some 0) :
    LacksField s "height"
  | url (hKind : s.kind = .navigate) (hUrl : s.url = none ∨ s.url = some "") : LacksField s "url"
  | key (hKind : s.kind = .keyDown) (hKey : s.key = none ∨ s.key = some "") : LacksField s "key"

/-- The target of the step is an absolute address, and not the address of its own page. -/
def LeavesPage (s : Step) : Prop :=
  ∃ target, s.target = some target ∧ (Begins "http://" target ∨ Begins "https://" target) ∧
    s.url ≠ some target

/-- The kinds of steps that act on an element, whatever else they have. -/
def elementKinds : List StepKind :=
  [.doubleClick, .submit, .hover, .waitForElement, .change, .assert]

/-- A step that cannot do without an element. A click that leaves the page can. -/
def NeedsElement (s : Step) : Prop :=
  s.kind ∈ elementKinds ∨ s.kind = .click ∧ ¬ LeavesPage s

/-- The problem of a step that lacks something. -/
@[mk_iff]
inductive Wants (s : Step) (selector : Option String) : StepProblem → Prop
  | field {name : String} (hField : LacksField s name) :
    Wants s selector (.missingField s.kind.name name)
  | element (hNeeds : NeedsElement s) (hNone : selector = none) :
    Wants s selector (.missingSelector s.kind.name)

/-! ## Parts of instructions -/

theorem otherPage?_eq_some {s : Step} {target : String} :
    otherPage? s = some target ↔ s.target = some target ∧
      (Begins "http://" target ∨ Begins "https://" target) ∧ s.url ≠ some target := by
  cases hTarget : s.target with
  | none => simp [otherPage?, hTarget]
  | some own =>
    simp only [otherPage?, hTarget, ← beginsWith_iff]
    grind

theorem leavesPage_iff {s : Step} : LeavesPage s ↔ ∃ target, otherPage? s = some target := by
  simp only [LeavesPage, otherPage?_eq_some]

section Problems

variable {α β : Type} {s : Step} {selector : Option String} {problem : StepProblem}

theorem bind_eq_error {x : Except StepProblem α} {f : α → Except StepProblem β} :
    x >>= f = .error problem ↔ x = .error problem ∨ ∃ a, x = .ok a ∧ f a = .error problem := by
  cases x <;> simp [bind, Except.bind]

theorem need_eq_error {wanted : StepProblem} {a : Option α} :
    need wanted a = .error problem ↔ a = none ∧ problem = wanted := by
  cases a <;> simp [need, eq_comm]

theorem need_eq_ok {wanted : StepProblem} {a : Option α} {found : α} :
    need wanted a = .ok found ↔ a = some found := by
  cases a <;> simp [need]

theorem act_eq_error {action : String} {wait : List Line} :
    act s selector action wait = .error problem ↔
      selector = none ∧ problem = .missingSelector s.kind.name := by
  cases selector <;> simp [act, needElement, need, bind, Except.bind, Functor.map, Except.map,
    eq_comm]

end Problems

/-! ## Problems of each kind -/

section Kinds

variable {s : Step} {selector : Option String} {problem : StepProblem}

/-- Steps of all other kinds have whatever fields they need. -/
theorem LacksField.kind {name : String} (h : LacksField s name) :
    s.kind ∈ [.setViewport, .navigate, .keyDown] := by
  cases h <;> simp [*]

theorem NeedsElement.kind (h : NeedsElement s) : s.kind ∈ .click :: elementKinds := by
  rcases h with hKind | ⟨hKind, -⟩
  · exact List.mem_cons_of_mem _ hKind
  · exact List.mem_cons.2 (.inl hKind)

/-- The kinds that need a field do not need an element. -/
theorem wants_field (hKind : s.kind ∈ [.setViewport, .navigate, .keyDown]) :
    Wants s selector problem ↔
      ∃ name, LacksField s name ∧ problem = .missingField s.kind.name name := by
  have hNot : ¬ NeedsElement s := by
    intro hNeeds
    have hOwn := hNeeds.kind
    simp only [List.mem_cons, List.not_mem_nil, or_false] at hKind
    rcases hKind with hKind | hKind | hKind <;> simp [hKind, elementKinds] at hOwn
  simp [wants_iff, hNot]

/-- The other kinds have a problem only without an element. -/
theorem wants_element (hKind : s.kind ∉ [.setViewport, .navigate, .keyDown]) :
    Wants s selector problem ↔
      NeedsElement s ∧ selector = none ∧ problem = .missingSelector s.kind.name := by
  have hNot : ∀ name, ¬ LacksField s name := fun name hLacks => hKind hLacks.kind
  simp [wants_iff, hNot]

theorem setViewport_eq_error (hKind : s.kind = .setViewport) :
    setViewport s = .error problem ↔ Wants s selector problem := by
  rw [wants_field (by simp [hKind])]
  simp only [setViewport, needField, bind_eq_error, need_eq_error, need_eq_ok, nonZero_eq_none,
    nonZero_eq_some, reduceCtorEq, and_false, exists_false, or_false]
  constructor
  · rintro (⟨hWidth, hProblem⟩ | ⟨width, ⟨hWidth, hPositive⟩, hHeight, hProblem⟩)
    · exact ⟨"width", .width hKind hWidth, hProblem⟩
    · exact ⟨"height", .height hKind hWidth hPositive hHeight, hProblem⟩
  · rintro ⟨name, hLacks, hProblem⟩
    cases hLacks with
    | width _ hWidth => exact .inl ⟨hWidth, hProblem⟩
    | height _ hWidth hPositive hHeight =>
      exact .inr ⟨_, ⟨hWidth, hPositive⟩, hHeight, hProblem⟩
    | url hOther | key hOther => simp [hKind] at hOther

theorem navigate_eq_error (hKind : s.kind = .navigate) :
    navigate s = .error problem ↔ Wants s selector problem := by
  rw [wants_field (by simp [hKind])]
  simp only [navigate, needField, bind_eq_error, need_eq_error, nonEmpty_eq_none, reduceCtorEq,
    and_false, exists_false, or_false]
  constructor
  · rintro ⟨hUrl, hProblem⟩
    exact ⟨"url", .url hKind hUrl, hProblem⟩
  · rintro ⟨name, hLacks, hProblem⟩
    cases hLacks with
    | url _ hUrl => exact ⟨hUrl, hProblem⟩
    | width hOther | height hOther | key hOther => simp [hKind] at hOther

/-- The keys of the page are pressed there, with an element and without. -/
theorem keyDown_of_pageKey {key : String} (hKey : nonEmpty s.key = some key)
    (hPage : key ∈ pageKeys) :
    keyDown s selector = .ok [pressLine key, longWait] :=
  keyDown_eq_ok.2 ⟨key, hKey, .inl ⟨hPage, rfl⟩⟩

/-- A key that is there can be pressed, on the element or on the page. -/
theorem exists_keyDown {key : String} (hKey : nonEmpty s.key = some key) :
    ∃ lines, keyDown s selector = .ok lines := by
  by_cases hPage : key ∈ pageKeys
  · exact ⟨_, keyDown_of_pageKey hKey hPage⟩
  · cases selector with
    | none => exact ⟨_, keyDown_eq_ok.2 ⟨key, hKey, .inr (.inl ⟨hPage, rfl, rfl⟩)⟩⟩
    | some c => exact ⟨_, keyDown_eq_ok.2 ⟨key, hKey, .inr (.inr ⟨hPage, c, rfl, rfl⟩)⟩⟩

theorem keyDown_eq_error (hKind : s.kind = .keyDown) :
    keyDown s selector = .error problem ↔ Wants s selector problem := by
  rw [wants_field (by simp [hKind])]
  constructor
  · intro h
    cases hKey : nonEmpty s.key with
    | none =>
      have hProblem : problem = .missingField s.kind.name "key" := by
        simpa [keyDown, needField, need, hKey, bind, Except.bind, eq_comm] using h
      exact ⟨"key", .key hKind (nonEmpty_eq_none.1 hKey), hProblem⟩
    | some key =>
      obtain ⟨lines, hLines⟩ : ∃ lines, keyDown s selector = .ok lines := exists_keyDown hKey
      rw [hLines] at h
      contradiction
  · rintro ⟨name, hLacks, rfl⟩
    cases hLacks with
    | key _ hKey => simp [keyDown, needField, need, nonEmpty_eq_none.2 hKey, bind, Except.bind]
    | width hOther | height hOther | url hOther => simp [hKind] at hOther

/-- The kinds of steps that are one action on their element. -/
theorem act_eq_error_of_kind {action : String} {wait : List Line} (hKind : s.kind ∈ elementKinds) :
    act s selector action wait = .error problem ↔ Wants s selector problem := by
  have hOther : s.kind ∉ [.setViewport, .navigate, .keyDown] := by
    simp only [elementKinds, List.mem_cons, List.not_mem_nil, or_false] at hKind
    rcases hKind with hKind | hKind | hKind | hKind | hKind | hKind <;> simp [hKind]
  have hNeeds : NeedsElement s := .inl hKind
  simp [wants_element hOther, act_eq_error, hNeeds]

theorem click_eq_error (hKind : s.kind = .click) :
    click s selector = .error problem ↔ Wants s selector problem := by
  have hNeeds : NeedsElement s ↔ otherPage? s = none := by
    simp [NeedsElement, hKind, elementKinds, leavesPage_iff, Option.eq_none_iff_forall_ne_some]
  rw [wants_element (by simp [hKind]), hNeeds]
  unfold click
  cases otherPage? s <;> simp [act_eq_error]

theorem change_eq_error (hKind : s.kind = .change) :
    change s selector = .error problem ↔ Wants s selector problem := by
  have hElement : s.kind ∈ elementKinds := by simp [hKind, elementKinds]
  unfold change
  split <;> exact act_eq_error_of_kind hElement

theorem assertElement_eq_error (hKind : s.kind = .assert) :
    assertElement s selector = .error problem ↔ Wants s selector problem := by
  have hElement : s.kind ∈ elementKinds := by simp [hKind, elementKinds]
  unfold assertElement
  split <;> exact act_eq_error_of_kind hElement

/-- Steps of these kinds have whatever they need. -/
theorem not_wants (hKind : s.kind = .keyUp ∨ s.kind = .scroll) : ¬ Wants s selector problem := by
  rintro (⟨hField⟩ | ⟨hNeeds, -⟩)
  · have hOwn := hField.kind
    rcases hKind with hKind | hKind <;> simp [hKind] at hOwn
  · have hOwn := hNeeds.kind
    rcases hKind with hKind | hKind <;> simp [hKind, elementKinds] at hOwn

/-- The instructions of a step of a known kind fail exactly on what it wants. -/
theorem instructions_eq_error (hKnown : ∀ name, s.kind ≠ .unknown name) :
    instructions s selector = .error problem ↔ Wants s selector problem := by
  unfold instructions
  cases hKind : s.kind with
  | setViewport => exact setViewport_eq_error hKind
  | navigate => exact navigate_eq_error hKind
  | click => exact click_eq_error hKind
  | change => exact change_eq_error hKind
  | keyDown => exact keyDown_eq_error hKind
  | assert => exact assertElement_eq_error hKind
  | doubleClick | submit | hover | waitForElement =>
    exact act_eq_error_of_kind (by simp [hKind, elementKinds])
  | keyUp | scroll =>
    have hNone : ¬ Wants s selector problem := not_wants (by simp [hKind])
    simp [hNone]
  | unknown name => exact absurd hKind (hKnown name)

end Kinds

/-! ## Outcomes -/

section Outcomes

variable {s : Step} {selector : Option String} {problem : StepProblem}

theorem Wants.known (h : Wants s selector problem) (name : String) : s.kind ≠ .unknown name := by
  intro hKind
  cases h with
  | field hField => simpa [hKind] using hField.kind
  | element hNeeds _ => simpa [hKind, elementKinds] using hNeeds.kind

theorem emit_eq_error : emit s selector = .error problem ↔ Wants s selector problem := by
  by_cases hKind : ∃ name, s.kind = .unknown name
  · obtain ⟨name, hKind⟩ := hKind
    have hNone : ¬ Wants s selector problem := fun hWants => hWants.known name hKind
    simp [emit_of_unknown hKind, hNone]
  · have hKnown : ∀ name, s.kind ≠ .unknown name := fun name hEq => hKind ⟨name, hEq⟩
    rw [emit_of_known hKnown, ← instructions_eq_error hKnown]
    cases instructions s selector <;> simp [Functor.map, Except.map]

theorem emit_eq_placeholder {line : String} :
    emit s selector = .ok (.placeholder line) ↔
      ∃ name, s.kind = .unknown name ∧ line = placeholder name := by
  constructor
  · intro h
    obtain ⟨name, hKind⟩ := unknown_of_placeholder h
    rw [emit_of_unknown hKind] at h
    exact ⟨name, hKind, (Emission.placeholder.inj (Except.ok.inj h)).symm⟩
  · rintro ⟨name, hKind, rfl⟩
    exact emit_of_unknown hKind selector

/-- A step is left with lines where neither the kind nor a lack prevents it. -/
theorem exists_code_iff : (∃ lines, lines ≠ [] ∧ emit s selector = .ok (.code lines)) ↔
    (∀ name, s.kind ≠ .unknown name) ∧ ∀ problem, ¬ Wants s selector problem := by
  constructor
  · rintro ⟨lines, -, hCode⟩
    refine ⟨?_, ?_⟩
    · intro name hKind
      simp [emit_of_unknown hKind] at hCode
    · intro problem hWants
      simp [emit_eq_error.2 hWants] at hCode
  · rintro ⟨hKnown, hNone⟩
    cases hEmit : emit s selector with
    | error problem => exact absurd (emit_eq_error.1 hEmit) (hNone problem)
    | ok emission =>
      cases emission with
      | placeholder line =>
        obtain ⟨name, hKind, -⟩ := emit_eq_placeholder.1 hEmit
        exact absurd hKind (hKnown name)
      | code lines => exact ⟨lines, code_ne_nil hEmit, rfl⟩

/-- The lines of a step do not depend on the selector if its instructions do not. -/
theorem emit_of_instructions {lines : List Line} (hKnown : ∀ name, s.kind ≠ .unknown name)
    (h : instructions s selector = .ok lines) :
    emit s selector = .ok (.code (scope s.frameIndex lines)) := by
  rw [emit_of_known hKnown, h]
  rfl

theorem emit_of_leavesPage (hKind : s.kind = .click) (h : LeavesPage s) :
    ∃ lines, ∀ selector, emit s selector = .ok (.code lines) := by
  obtain ⟨target, hTarget⟩ := leavesPage_iff.1 h
  have hLines : ∀ selector, instructions s selector =
      .ok (.free "// click opened a new page, replaced with a visit" :: visit target) := by
    simp [instructions, hKind, click, hTarget]
  exact ⟨_, fun selector => emit_of_instructions (by simp [hKind]) (hLines selector)⟩

theorem emit_of_pageKey {key : String} (hKind : s.kind = .keyDown) (hKey : s.key = some key)
    (hPage : key ∈ pageKeys) : ∃ lines, ∀ selector, emit s selector = .ok (.code lines) := by
  have hThere : nonEmpty s.key = some key := by
    have hNe : key ≠ "" := by
      rintro rfl
      simp [pageKeys] at hPage
    simp [nonEmpty, hKey, hNe]
  have hLines : ∀ selector, instructions s selector = .ok [pressLine key, longWait] := by
    simp [instructions, hKind, keyDown_of_pageKey hThere hPage]
  exact ⟨_, fun selector => emit_of_instructions (by simp [hKind]) (hLines selector)⟩

end Outcomes

/-- **A step fails exactly when it lacks what its kind needs.** It becomes a placeholder exactly if
its kind is not known. It has a problem exactly if it lacks a field or an element that its kind
needs, which the problem names together with the kind. In all other cases it has lines. So a scroll
and the release of a key never fail, and a click that leaves the page and a key of the page have the
same lines with an element and without. -/
theorem emit_outcomes (s : Step) (selector : Option String) :
    (∀ line, emit s selector = .ok (.placeholder line) ↔
      ∃ name, s.kind = .unknown name ∧ line = placeholder name) ∧
    (∀ problem, emit s selector = .error problem ↔
      (∃ field, LacksField s field ∧ problem = .missingField s.kind.name field) ∨
        (NeedsElement s ∧ selector = none ∧ problem = .missingSelector s.kind.name)) ∧
    ((∃ lines, lines ≠ [] ∧ emit s selector = .ok (.code lines)) ↔
      (∀ name, s.kind ≠ .unknown name) ∧ (∀ field, ¬ LacksField s field) ∧
        ¬ (NeedsElement s ∧ selector = none)) ∧
    (s.kind = .scroll ∨ s.kind = .keyUp → ∃ lines, emit s selector = .ok (.code lines)) ∧
    (s.kind = .click ∧ LeavesPage s ∨
        s.kind = .keyDown ∧ (s.key = some "Tab" ∨ s.key = some "Enter") →
      ∃ lines, ∀ selector', emit s selector' = .ok (.code lines)) := by
  refine ⟨fun line => emit_eq_placeholder, ?_, ?_, ?_, ?_⟩
  · intro problem
    rw [emit_eq_error, wants_iff]
  · rw [exists_code_iff]
    refine and_congr_right fun _ => ?_
    constructor
    · intro hNone
      refine ⟨fun field hField => hNone _ (.field hField), ?_⟩
      rintro ⟨hNeeds, hSelector⟩
      exact hNone _ (.element hNeeds hSelector)
    · rintro ⟨hFields, hElement⟩ problem (⟨hField⟩ | ⟨hNeeds, hSelector⟩)
      · exact hFields _ hField
      · exact hElement ⟨hNeeds, hSelector⟩
  · intro hKind
    have hKnown : ∀ name, s.kind ≠ .unknown name := by
      rcases hKind with hKind | hKind <;> simp [hKind]
    have hNone : ∀ problem, ¬ Wants s selector problem := fun problem => not_wants hKind.symm
    obtain ⟨lines, -, hCode⟩ := exists_code_iff.2 ⟨hKnown, hNone⟩
    exact ⟨lines, hCode⟩
  · rintro (⟨hKind, hLeaves⟩ | ⟨hKind, hKey | hKey⟩)
    · exact emit_of_leavesPage hKind hLeaves
    · exact emit_of_pageKey hKind hKey (by decide)
    · exact emit_of_pageKey hKind hKey (by decide)

/-- A click on a link to another page, which needs its element only without the link. -/
theorem emit_outcomes_click :
    let click : Step :=
      { kind := .click, url := some "https://a.test/", target := some "https://a.test/in" }
    (∃ lines, ∀ selector, emit click selector = .ok (.code lines)) ∧
      emit { click with target := none } none = .error (.missingSelector "click") := by
  intro click
  have hLeaves : LeavesPage click :=
    ⟨"https://a.test/in", rfl, .inr ⟨"a.test/in".toList, by decide⟩, by decide⟩
  have hStays : ¬ LeavesPage { click with target := none } := by
    rintro ⟨target, hTarget, -⟩
    cases hTarget
  refine ⟨(emit_outcomes click none).2.2.2.2 (.inl ⟨rfl, hLeaves⟩), ?_⟩
  exact ((emit_outcomes { click with target := none } none).2.1 _).2
    (.inr ⟨.inr ⟨rfl, hStays⟩, rfl, rfl⟩)

end SessionReplay.Script
