import SessionReplay.Proofs.Recording.Dimensions
import SessionReplay.Proofs.Script.Requirements

/-!
# Viewports in a script

The viewport is set by the line for the viewport of the recording and by steps that set it, and by
nothing else. Neither sets it to nothing.

* `SetsViewport`: whether a line sets the viewport.
* `HasOtherStart`: how all other lines begin.
* `forall_scope`: what holds of the lines of a step holds in a frame.
* `instructions_other`: the instructions of steps that do not set the viewport.
* `emit_setViewport`: what becomes of a step that sets it.
* `SetsViewports`: where the script of a recording sets the viewport.
* `viewports_sized`: dimensions, from the document to the script.
-/

namespace SessionReplay.Script

open Json

/-! ## Lines -/

/-- A line that sets the viewport, however far it is indented. -/
def SetsViewport (line : String) : Prop :=
  "cy.viewport(".toList <+: line.toList.dropWhile (· == ' ')

instance (line : String) : Decidable (SetsViewport line) := inferInstanceAs (Decidable (_ <+: _))

theorem setsViewport_indent (indent : String) (hBlank : indent.toList.all (· == ' ') = true)
    (line : String) : SetsViewport (indent ++ line) ↔ SetsViewport line := by
  unfold SetsViewport
  rw [String.toList_append, List.dropWhile_append_of_pos (List.all_eq_true.1 hBlank)]

/-- How the lines begin that do not set the viewport, but for their indent. -/
def otherStarts : List String :=
  ["cy.get(", "cy.xpath("] ++ restStarts ++ ["import ", "describe(", "it(", "\x7d);"]

def HasOtherStart (line : String) : Prop := ∃ start ∈ otherStarts, Begins start line

theorem HasOtherStart.append {line : String} (h : HasOtherStart line) (more : String) :
    HasOtherStart (line ++ more) := by
  obtain ⟨start, hMem, hBegins⟩ := h
  exact ⟨start, hMem, hBegins.append more⟩

/-- A line of another kind does not set the viewport, as neither beginning goes on with the
other. -/
theorem HasOtherStart.not_setsViewport {line : String} (h : HasOtherStart line) :
    ¬ SetsViewport line := by
  obtain ⟨start, hMem, rest, hLine⟩ := h
  have hApart : ∀ start ∈ otherStarts, ¬ start.toList <+: "cy.viewport(".toList ∧
      ¬ "cy.viewport(".toList <+: start.toList ∧
        (start.toList ++ rest).dropWhile (· == ' ') = start.toList ++ rest := by
    simp [otherStarts, restStarts]
  obtain ⟨hShort, hLong, hKept⟩ := hApart start hMem
  unfold SetsViewport
  rw [← hLine, hKept]
  intro hSets
  rcases List.prefix_or_prefix_of_prefix hSets (List.prefix_append _ rest) with h | h
  · exact hLong h
  · exact hShort h

theorem hasOtherStart_lookup (c : String) : HasOtherStart (lookup c) := by
  rcases isLookup_lookup c with h | h
  · exact ⟨_, by decide, h⟩
  · exact ⟨_, by decide, h⟩

theorem hasOtherStart_comment {line : String} (h : BeginsComment line) : HasOtherStart line := by
  obtain ⟨rest, hRest⟩ := h
  exact ⟨"//", by decide, rest, hRest.symm⟩

/-! ## Instructions -/

/-- What holds of the lines of a step holds of these lines in a frame. -/
theorem forall_scope {P : String → Prop} (hOpening : ∀ index, P (frameOpening index))
    (hClosing : P frameClosing) (hIndent : ∀ text, P text → P ("  " ++ text))
    {lines : List Line} (hLines : ∀ line ∈ lines, P line.text) (frame : Option UInt64) :
    ∀ line ∈ scope frame lines, P line := by
  cases frame with
  | none => simpa [scope] using hLines
  | some index =>
    have hRun {run : List String} (h : ∀ text ∈ run, P text) :
        ∀ line ∈ closeRun index run, P line := by
      unfold closeRun enclose
      split
      · simp
      · simp only [List.mem_append, List.mem_cons, List.mem_map, List.not_mem_nil, or_false]
        rintro line ((rfl | ⟨text, hText, rfl⟩) | rfl)
        · exact hOpening index
        · exact hIndent text (h text hText)
        · exact hClosing
    have hFrom (run : List String) (h : ∀ text ∈ run, P text) :
        ∀ line ∈ scopeFrom index run lines, P line := by
      induction lines generalizing run with
      | nil => exact hRun h
      | cons own rest ih =>
        obtain ⟨hOwn, hRest⟩ := List.forall_mem_cons.1 hLines
        cases own with
        | bound text =>
          refine ih hRest (run ++ [text]) fun other hMem => ?_
          rcases List.mem_append.1 hMem with hMem | hMem
          · exact h other hMem
          · exact List.mem_singleton.1 hMem ▸ hOwn
        | free text =>
          intro line hMem
          rcases List.mem_append.1 hMem with hMem | hMem
          · exact hRun h line hMem
          · rcases List.mem_cons.1 hMem with rfl | hMem
            · exact hOwn
            · exact ih hRest [] (by simp) line hMem
    exact hFrom [] (by simp)

section Steps

variable {s : Step} {selector : Option String} {lines : List Line}

/-- Steps of any other kind do not set the viewport. -/
theorem instructions_other (hKind : s.kind ≠ .setViewport)
    (h : instructions s selector = .ok lines) : ∀ line ∈ lines, HasOtherStart line.text := by
  have hRest : ∀ start ∈ restStarts, start ∈ otherStarts := by decide
  intro line hMem
  cases instructions_placed h line hMem with
  | @call c text hSelector call hText => exact hText ▸ (hasOtherStart_lookup c).append _
  | viewport hOwn => exact absurd hOwn hKind
  | rest _ hStart hText => exact ⟨_, hRest _ hStart, hText⟩

/-- A step that sets the viewport has a line for it if both of its dimensions are there, and lacks
a field otherwise. -/
theorem emit_setViewport (selector : Option String) (hKind : s.kind = .setViewport) :
    (∃ width height, s.width = some width ∧ s.height = some height ∧ 0 < width ∧ 0 < height ∧
      emit s selector = .ok (.code [viewportLine width height])) ∨
    ∃ field, LacksField s field ∧
      emit s selector = .error (.missingField "setViewport" field) := by
  cases hEmit : emit s selector with
  | error problem =>
    have hWants := emit_eq_error.1 hEmit
    rw [wants_field (by simp [hKind])] at hWants
    obtain ⟨field, hLacks, rfl⟩ := hWants
    rw [hKind]
    exact .inr ⟨field, hLacks, rfl⟩
  | ok emission =>
    have hKnown : ∀ name, s.kind ≠ .unknown name := by simp [hKind]
    rw [emit_of_known hKnown, instructions, hKind] at hEmit
    obtain ⟨lines, hLines, rfl⟩ := map_eq_ok.1 hEmit
    obtain ⟨width, height, ⟨hWidth, hPositive⟩, ⟨hHeight, hPositive'⟩, rfl⟩ :=
      setViewport_eq_ok.1 hLines
    rw [scope_free]
    exact .inl ⟨width, height, hWidth, hHeight, hPositive, hPositive', rfl⟩

end Steps

/-! ## Blocks -/

theorem not_setsViewport_comment {line : String} (h : BeginsComment line) : ¬ SetsViewport line :=
  (hasOtherStart_comment h).not_setsViewport

theorem not_setsViewport_skippedLine (index : ℕ) (stepName : String) (problem : StepProblem) :
    ¬ SetsViewport (skippedLine index stepName problem) :=
  not_setsViewport_comment (skippedLine_flattens index stepName problem).begins

/-- Frames do not set the viewport. -/
theorem not_setsViewport_scope {lines : List Line}
    (hLines : ∀ line ∈ lines, HasOtherStart line.text) (frame : Option UInt64) :
    ∀ line ∈ scope frame lines, ¬ SetsViewport line := by
  refine forall_scope (fun index => ?_) (by decide) (fun text hText => ?_) (fun line hMem => ?_)
    frame
  · have hOpening : HasOtherStart (frameOpening index) :=
      .append (.append ⟨"cy.get(", by decide, _, rfl⟩ _) _
    exact hOpening.not_setsViewport
  · rwa [setsViewport_indent "  " rfl]
  · exact (hLines line hMem).not_setsViewport

/-- Only steps of this kind set the viewport, to something in both directions. -/
theorem viewport_of_stepBlock {index : ℕ} {step : Json} {line : String}
    (hMem : line ∈ (stepBlock index step).1) (hSets : SetsViewport line) :
    ∃ width height : UInt32, 0 < width ∧ 0 < height ∧ line = viewportLine width height := by
  unfold stepBlock at hMem
  split at hMem
  · obtain rfl := List.mem_singleton.1 hMem
    exact absurd hSets (not_setsViewport_skippedLine _ _ _)
  · next s _ =>
    by_cases hKind : s.kind = .setViewport
    · rcases emit_setViewport (choose s.selectors) hKind with
        ⟨width, height, -, -, hWidth, hHeight, hEmit⟩ | ⟨field, -, hEmit⟩
      · rw [hEmit] at hMem
        exact ⟨width, height, hWidth, hHeight, List.mem_singleton.1 hMem⟩
      · rw [hEmit] at hMem
        obtain rfl := List.mem_singleton.1 hMem
        exact absurd hSets (not_setsViewport_skippedLine _ _ _)
    · split at hMem
      · next code hEmit =>
        have hKnown : ∀ name, s.kind ≠ .unknown name := by
          intro name hName
          simp [emit_of_unknown hName] at hEmit
        rw [emit_of_known hKnown] at hEmit
        obtain ⟨lines, hLines, hCode⟩ := map_eq_ok.1 hEmit
        obtain rfl := Emission.code.inj hCode
        exact absurd hSets (not_setsViewport_scope (instructions_other hKind hLines) _ line hMem)
      · next text hEmit =>
        obtain ⟨name, -, rfl⟩ := emit_eq_placeholder.1 hEmit
        obtain rfl := List.mem_singleton.1 hMem
        exact absurd hSets (not_setsViewport_comment (placeholder_flattens name).begins)
      · obtain rfl := List.mem_singleton.1 hMem
        exact absurd hSets (not_setsViewport_skippedLine _ _ _)

/-! ## Scripts -/

/-- A line that sets the viewport, to what it can be set to. -/
def IsViewportLine (line : String) : Prop :=
  ∃ width height : ℕ, 1 ≤ width ∧ width ≤ 4294967295 ∧ 1 ≤ height ∧ height ≤ 4294967295 ∧
    line = stepIndent ++ s!"cy.viewport({width}, {height});"

theorem isViewportLine {width height : UInt32} (hWidth : 0 < width) (hHeight : 0 < height) :
    IsViewportLine (stepIndent ++ viewportLine width height) := by
  have hRange (n : UInt32) (hPositive : 0 < n) : 1 ≤ n.toNat ∧ n.toNat ≤ 4294967295 := by
    have hBelow := n.toNat_lt
    exact ⟨UInt32.lt_iff_toNat_lt.1 hPositive, by omega⟩
  obtain ⟨hLow, hHigh⟩ := hRange width hWidth
  obtain ⟨hLow', hHigh'⟩ := hRange height hHeight
  exact ⟨_, _, hLow, hHigh, hLow', hHigh', rfl⟩

/-- The line for the viewport of a recording, if there is one. -/
def ownViewport : Option Viewport → List String
  | some v => if v.isSet then [stepIndent ++ viewportLine v.width v.height] else []
  | none => []

/-- What stands before the line for the viewport. -/
def heading (name : String) : List String :=
  imports ++
    ["", "describe(" ++ quote name ++ ", () => \x7b", "  it(" ++ quote name ++ ", () => \x7b"]

theorem opening_eq (name : String) (viewport : Option Viewport) :
    opening name viewport = heading name ++ ownViewport viewport := by
  cases viewport <;> rfl

theorem not_setsViewport_heading {name line : String} (hMem : line ∈ heading name) :
    ¬ SetsViewport line := by
  have hTest : "  it(" ++ quote name ++ ", () => \x7b" =
      "  " ++ ("it(" ++ quote name ++ ", () => \x7b") := by simp [← String.toList_inj]
  simp only [heading, imports, List.cons_append, List.nil_append, List.mem_cons,
    List.not_mem_nil, or_false] at hMem
  rcases hMem with rfl | rfl | rfl | rfl | rfl
  · decide
  · decide
  · decide
  · have hSuite : HasOtherStart ("describe(" ++ quote name ++ ", () => \x7b") :=
      .append (.append ⟨"describe(", by decide, .self _⟩ _) _
    exact hSuite.not_setsViewport
  · have hStart : HasOtherStart ("it(" ++ quote name ++ ", () => \x7b") :=
      .append (.append ⟨"it(", by decide, .self _⟩ _) _
    rw [hTest, setsViewport_indent "  " rfl]
    exact hStart.not_setsViewport

theorem not_setsViewport_closing : ∀ line ∈ closing, ¬ SetsViewport line := by decide

section Recordings

variable (r : Recording) (fallback : String)

theorem lines_eq (viewport : Option Viewport) :
    (ofRecording { r with viewport } fallback).lines =
      heading (nameOf r fallback) ++ ownViewport viewport ++ (stepLines 0 r.steps ++ closing) := by
  rw [lines_ofRecording, opening_eq, List.append_assoc]
  rfl

theorem ownViewport_of_pos {v : Viewport} (hWidth : 0 < v.width) (hHeight : 0 < v.height) :
    ownViewport (some v) = [stepIndent ++ viewportLine v.width v.height] :=
  if_pos (by simp [Viewport.isSet, hWidth, hHeight])

theorem ownViewport_of_zero {viewport : Option Viewport}
    (h : ∀ v ∈ viewport, v.width = 0 ∨ v.height = 0) : ownViewport viewport = [] := by
  cases viewport with
  | none => rfl
  | some v =>
    refine if_neg ?_
    rcases h v rfl with hZero | hZero <;> simp [Viewport.isSet, hZero]

theorem isViewportLine_of_mem {line : String} (hMem : line ∈ (ofRecording r fallback).lines)
    (hSets : SetsViewport line) : IsViewportLine line := by
  rw [lines_eq r fallback r.viewport, stepLines_eq_flatMap] at hMem
  simp only [List.mem_append, List.mem_flatMap] at hMem
  rcases hMem with (hHeading | hOwn) | ⟨step, -, hStep⟩ | hClosing
  · exact absurd hSets (not_setsViewport_heading hHeading)
  · unfold ownViewport at hOwn
    split at hOwn
    · split at hOwn
      · next v hSet =>
        simp only [Viewport.isSet, Bool.and_eq_true, decide_eq_true_eq] at hSet
        exact List.mem_singleton.1 hOwn ▸ isViewportLine hSet.1 hSet.2
      · contradiction
    · contradiction
  · obtain ⟨inner, hInner, rfl⟩ := List.mem_map.1 hStep
    rw [setsViewport_indent stepIndent rfl] at hSets
    obtain ⟨width, height, hWidth, hHeight, rfl⟩ := viewport_of_stepBlock hInner hSets
    exact isViewportLine hWidth hHeight
  · exact absurd hSets (not_setsViewport_closing line hClosing)

/-- Where the script of a recording sets the viewport. -/
structure SetsViewports : Prop where
  /-- It is never set to nothing. -/
  lines : ∀ line ∈ (ofRecording r fallback).lines, SetsViewport line → IsViewportLine line
  /-- The viewport of the recording has a line exactly if it has both dimensions. -/
  own : ∃ before after,
    (∀ v : Viewport, 0 < v.width → 0 < v.height →
      (ofRecording { r with viewport := some v } fallback).lines =
        before ++ (stepIndent ++ viewportLine v.width v.height) :: after) ∧
    ∀ viewport : Option Viewport, (∀ v ∈ viewport, v.width = 0 ∨ v.height = 0) →
      (ofRecording { r with viewport } fallback).lines = before ++ after
  /-- A step that sets the viewport has a line exactly if it has both dimensions, and a comment
  otherwise. -/
  steps : ∀ before step after s, r.steps = before ++ step :: after →
    decodeValue Step.decode step = .ok s → s.kind = .setViewport →
      ∃ line, (ofRecording r fallback).lines = linesBefore r fallback before ++
          (stepIndent ++ line) :: (stepLines (before.length + 1) after ++ closing) ∧
        ((∃ width height, s.width = some width ∧ s.height = some height ∧ 0 < width ∧ 0 < height ∧
            line = viewportLine width height) ∨
          ∃ field, LacksField s field ∧ line =
            skippedLine (before.length + 1) "setViewport" (.missingField "setViewport" field))

theorem setsViewports : SetsViewports r fallback where
  lines _ hMem hSets := isViewportLine_of_mem r fallback hMem hSets
  own := by
    refine ⟨heading (nameOf r fallback), stepLines 0 r.steps ++ closing, ?_, ?_⟩
    · intro v hWidth hHeight
      rw [lines_eq, ownViewport_of_pos hWidth hHeight, List.append_assoc]
      rfl
    · intro viewport hZero
      rw [lines_eq, ownViewport_of_zero hZero, List.append_nil]
  steps before step after s hSteps hDecode hKind := by
    have hLines := lines_around hSteps fallback
    rcases emit_setViewport (choose s.selectors) hKind with
      ⟨width, height, hWidth, hHeight, hPositive, hPositive', hEmit⟩ | ⟨field, hLacks, hEmit⟩
    · have hBlock : indentedBlock (before.length + 1) step =
          [stepIndent ++ viewportLine width height] := by
        simp [indentedBlock, stepBlock, hDecode, hEmit]
      rw [hBlock, List.append_assoc] at hLines
      exact ⟨_, hLines, .inl ⟨width, height, hWidth, hHeight, hPositive, hPositive', rfl⟩⟩
    · have hBlock : indentedBlock (before.length + 1) step = [stepIndent ++
          skippedLine (before.length + 1) "setViewport" (.missingField "setViewport" field)] := by
        simp [indentedBlock, stepBlock, hDecode, hEmit, skippedStep, hKind, StepKind.name]
      rw [hBlock, List.append_assoc] at hLines
      exact ⟨_, hLines, .inr ⟨field, hLacks, rfl⟩⟩

end Recordings

/-- **Viewports are rounded and cut, and never nothing in a script.** Whatever value stands in the
place of a dimension, it is decoded: a number to the nearest integer, a half going away from zero,
and to what 32 bits hold at most, unless it is negative then; and any other value to none. This is
monotone on numbers that are not negative, and the same for an integer as for the double next to
it. The dimensions of the viewport of a recording and those of a step are what stands under their
names, and whether the recording or the step is read does not depend on them. In the script of
every recording the viewport is set by lines with dimensions from one to what 32 bits hold only:
that of the recording exactly if both of its dimensions are not zero, and a step that sets it
exactly if both are there and not zero, and otherwise its line is a comment. -/
theorem viewports_sized :
    (∀ (node : Node) w, node.toJson = .ok w → ∃ o, node.asPixels = .ok o ∧
      Viewport.asDimension node = .ok (o.getD 0) ∧ o.map UInt32.toNat = size? w) ∧
    (∀ m n : Number, 0 ≤ m.toRat → m.toRat ≤ n.toRat →
      ∃ a b, pixels m = some a ∧ pixels n = some b ∧ a ≤ b) ∧
    (∀ n : Number, pixels (.real n.toDouble) = pixels n) ∧
    (∀ node r v, Recording.decode node = .ok r → r.viewport = some v →
      ∃ inner, node.under Recording.names "viewport" = some inner ∧ v.Sized inner) ∧
    (∀ node s, Step.decode node = .ok s → s.Sized node) ∧
    (∀ text members w, Json.parse text = .ok (.object members) →
      (Document.ofText text).root.isDistinct = true →
      member? "viewport" members = some w → Viewport.Accepts w →
        ((∃ r, Recording.ofText text = .ok r) ↔ BlankOr IsText (member? "title" members) ∧
          BlankOr (fun w => ∃ ws, w = .array ws) (member? "steps" members))) ∧
    (∀ members name w, MembersOrdered members → name ∈ ["width", "height"] → w.Ordered →
      ((∃ s, decodeValue Step.decode (.object (insert name w members)) = .ok s) ↔
        ∃ s, decodeValue Step.decode (.object members) = .ok s)) ∧
    ∀ r fallback, SetsViewports r fallback := by
  refine ⟨fun _ _ => Node.asPixels_of_toJson, fun _ _ => pixels_mono, pixels_toDouble, ?_,
    fun _ _ => Step.sized_of_decode, fun _ _ _ => Recording.exists_ofText_iff, ?_, setsViewports⟩
  · intro node r v hRead hViewport
    exact Recording.sized_of_decode hRead hViewport
  · intro members name w hOrdered hName hValue
    exact Step.exists_decodeValue_insert hOrdered hName hValue

/-- A width between two integers, a height that is negative but rounded to zero, and a width that is
more than 32 bits hold. -/
theorem viewports_sized_cut :
    let half : Number := .real ⟨false, 5627300510957568, -42⟩
    let small : Number := .real ⟨true, 4503599627370496, -54⟩
    let viewport : Json := .object [("height", .number small), ("width", .number half)]
    let members : List (String × Json) := [("height", .number (.natural 2)),
      ("type", .string "setViewport"), ("width", .number (.natural 5000000000))]
    let step : Json := .object members
    let text := "\x7b\"steps\":[],\"viewport\":\x7b\"height\":-0.25,\"width\":1279.5\x7d\x7d"
    let r : Recording := { viewport := some ⟨1280, 0⟩, steps := [step] }
    (∃ o, (Node.ofJson (.number half)).asPixels = .ok o ∧ o.map UInt32.toNat = some 1280) ∧
    (∃ a b, pixels (.natural 1279) = some a ∧ pixels half = some b ∧ a ≤ b) ∧
    Viewport.Sized (.ofJson viewport) ⟨1280, 0⟩ ∧
    (∃ r', Recording.ofText text = .ok r') ∧
    (∃ s, decodeValue Step.decode step = .ok s ∧ s.Sized (.ofJson step)) ∧
    (∃ s, decodeValue Step.decode (.object (insert "width" (.array []) members)) = .ok s) ∧
    (∃ before after, (ofRecording r "t").lines = before ++ after ∧
      (ofRecording { r with viewport := some ⟨1280, 1⟩ } "t").lines =
        before ++ "    cy.viewport(1280, 1);" :: after) ∧
    (ofRecording r "t").lines =
      linesBefore r "t" [] ++ "    cy.viewport(4294967295, 2);" :: closing := by
  intro half small viewport members step text r
  obtain ⟨hValues, hMono, -, hOwn, hSteps, hTexts, hInserted, hScripts⟩ := viewports_sized
  have hDecode : decodeValue Step.decode step = .ok
      { kind := .setViewport, width := some 4294967295, height := some 2 } := by rfl
  refine ⟨?_, ?_, ?_, ?_, ⟨_, hDecode, hSteps _ _ hDecode⟩, ?_, ?_, ?_⟩
  · obtain ⟨o, hPixels, -, hSized⟩ := hValues (.ofJson (.number half)) (.number half) rfl
    have hSize : size? (.number half) = some 1280 := by
      rw [← pixels_toNat]
      decide +kernel
    exact ⟨o, hPixels, hSized.trans hSize⟩
  · have hHalf : half.toRat = 2559 / 2 := by
      norm_num [half, Number.toRat, Double.toRat, Double.magnitude]
    have hWhole : (Number.natural 1279).toRat = 1279 := rfl
    exact hMono (.natural 1279) half (by rw [hWhole]; norm_num) (by rw [hWhole, hHalf]; norm_num)
  · obtain ⟨inner, hInner, hSized⟩ := hOwn (.ofJson (.object [("viewport", viewport)]))
      { viewport := some ⟨1280, 0⟩ } _ (by rfl) rfl
    obtain rfl := Option.some.inj hInner
    exact hSized
  · have hRead : Json.parse text = .ok (.object [("steps", .array []), ("viewport", viewport)]) ∧
        (Document.ofText text).root.isDistinct = true := by decide +kernel
    exact (hTexts text _ _ hRead.1 hRead.2 rfl (.object _)).2 ⟨.absent, .there ⟨_, rfl⟩⟩
  · have hOrdered : MembersOrdered members ∧ Json.Ordered (.array []) := by
      simp only [members, MembersOrdered, Json.Ordered, ItemsOrdered]
      decide
    exact (hInserted members "width" _ hOrdered.1 (by decide) hOrdered.2).2 ⟨_, hDecode⟩
  · obtain ⟨before, after, hSet, hZero⟩ := (hScripts r "t").own
    have hNone : ∀ v ∈ r.viewport, v.width = 0 ∨ v.height = 0 := by decide
    exact ⟨before, after, hZero r.viewport hNone, hSet ⟨1280, 1⟩ (by decide) (by decide)⟩
  · obtain ⟨line, hLines, hKinds⟩ := (hScripts r "t").steps [] step [] _ rfl hDecode rfl
    rcases hKinds with ⟨width, height, hWidth, hHeight, -, -, rfl⟩ | ⟨field, hLacks, -⟩
    · obtain rfl := Option.some.inj hWidth
      obtain rfl := Option.some.inj hHeight
      exact hLines
    · cases hLacks with
      | width _ hWidth => simp at hWidth
      | height _ _ _ hHeight => simp at hHeight
      | url hKind | key hKind => contradiction

end SessionReplay.Script
