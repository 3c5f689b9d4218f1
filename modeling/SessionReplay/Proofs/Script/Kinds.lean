import SessionReplay.Script.Instruction

/-!
# Instructions of each kind

What a step has where it has instructions: the parts that its kind needs, and the lines that are
made of them.

* `nonEmpty_eq_none`, `nonZero_eq_none`: texts and counts that are as good as absent.
* `act_eq_ok`: an action on the element.
* `setViewport_eq_ok`, `navigate_eq_ok`, `keyDown_eq_ok`: the kinds of steps that need a field.
-/

namespace SessionReplay.Script

/-! ## Parts -/

theorem nonEmpty_eq_none {text : Option String} :
    nonEmpty text = none ↔ text = none ∨ text = some "" := by
  cases text <;> simp [nonEmpty]

theorem nonZero_eq_none {count : Option UInt32} :
    nonZero count = none ↔ count = none ∨ count = some 0 := by
  cases count <;> simp [nonZero]

theorem nonZero_eq_some {count : Option UInt32} {n : UInt32} :
    nonZero count = some n ↔ count = some n ∧ 0 < n := by
  cases count with
  | none => simp [nonZero]
  | some own =>
    have hPositive : 0 < n ↔ n ≠ 0 := UInt32.pos_iff_ne_zero
    simp only [nonZero, hPositive]
    grind

/-! ## Lines -/

section Lines

variable {s : Step} {selector : Option String} {lines : List Line}

/-- An action has an element to act on. -/
theorem act_eq_ok {action : String} {wait : List Line} :
    act s selector action wait = .ok lines ↔
      ∃ c, selector = some c ∧ lines = .bound (lookup c ++ "." ++ action ++ ";") :: wait := by
  cases selector <;> simp [act, needElement, need, bind, Except.bind, Functor.map, Except.map,
    eq_comm]

theorem setViewport_eq_ok : setViewport s = .ok lines ↔
    ∃ width height, (s.width = some width ∧ 0 < width) ∧ (s.height = some height ∧ 0 < height) ∧
      lines = [.free (viewportLine width height)] := by
  simp only [setViewport, needField, ← nonZero_eq_some]
  cases nonZero s.width with
  | none => simp [need, bind, Except.bind]
  | some width => cases nonZero s.height <;> simp [need, bind, Except.bind, eq_comm]

theorem navigate_eq_ok : navigate s = .ok lines ↔
    ∃ url, nonEmpty s.url = some url ∧ lines = visit url := by
  cases hUrl : nonEmpty s.url <;> simp [navigate, needField, need, hUrl, bind, Except.bind, eq_comm]

/-- The line that presses a key on the page. -/
def pressLine (key : String) : Line := .free ("cy.realPress(" ++ quote key ++ ");")

/-- A key of the page is pressed there, and so is any other key without an element. -/
theorem keyDown_eq_ok : keyDown s selector = .ok lines ↔
    ∃ key, nonEmpty s.key = some key ∧
      (key ∈ pageKeys ∧ lines = [pressLine key, longWait] ∨
        key ∉ pageKeys ∧ selector = none ∧ lines = [pressLine key] ∨
        key ∉ pageKeys ∧ ∃ c, selector = some c ∧
          lines = [.bound (lookup c ++ ".realType(" ++ quote key ++ ");"), shortWait]) := by
  cases hKey : nonEmpty s.key with
  | none => simp [keyDown, needField, need, hKey, bind, Except.bind]
  | some key =>
    by_cases hPage : key ∈ pageKeys
    · simp [keyDown, needField, need, hKey, hPage, bind, Except.bind, pressLine, eq_comm]
    · cases selector <;>
        simp [keyDown, needField, need, hKey, hPage, bind, Except.bind, pressLine, eq_comm]

end Lines

end SessionReplay.Script
