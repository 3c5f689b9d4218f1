import SessionReplay.Proofs.Json.Telling
import SessionReplay.Proofs.Script.Requirements

/-!
# What diagnostics say

A diagnostic names its step by the index. Of the recording it repeats nothing but the kind of a step
that is not known.

* `Lacks`, `lacks_of_emit`: what a step of a known kind may lack.
* `Diagnostic.texts`, `repeats_of_mem_diagnostics`: the texts that a diagnostic repeats.
-/

namespace SessionReplay.Script

open Text

/-! ## Steps that lack something -/

/-- What a step may lack: an element, or one of the fields that its kind needs. -/
inductive Lacks (s : Step) : StepProblem → Prop
  | element : Lacks s (.missingSelector s.kind.name)
  | field {name : String} (hName : name ∈ ["width", "height", "url", "key"]) :
      Lacks s (.missingField s.kind.name name)

/-- A step of a known kind has its instructions, unless it lacks something. -/
theorem lacks_of_emit {s : Step} {selector : Option String} {problem : StepProblem}
    (h : emit s selector = .error problem) :
    (∀ kind, s.kind ≠ .unknown kind) ∧ Lacks s problem := by
  have hWants : Wants s selector problem := emit_eq_error.1 h
  refine ⟨hWants.known, ?_⟩
  cases hWants with
  | element _ _ => exact .element
  | field hField => exact .field (by cases hField <;> decide)

/-! ## Messages -/

theorem isLine_name {kind : StepKind} (h : ∀ name, kind ≠ .unknown name) : IsLine kind.name := by
  cases kind with
  | unknown name => exact absurd rfl (h name)
  | _ => decide

theorem isLine_problem {s : Step} {problem : StepProblem} (hKnown : ∀ kind, s.kind ≠ .unknown kind)
    (h : Lacks s problem) : IsLine problem.message := by
  have hKind := isLine_name hKnown
  cases h with
  | element => exact isLine_append.2 ⟨hKind, by decide⟩
  | @field name hName =>
    have hFields : ∀ name ∈ ["width", "height", "url", "key"], IsLine name := by decide
    have hMissing : IsLine " is missing '" := by decide
    exact isLine_append.2 ⟨isLine_append.2 ⟨isLine_append.2 ⟨hKind, hMissing⟩, hFields name hName⟩,
      by decide⟩

theorem isLine_malformed {step : Json} {fault : Json.Fault}
    (h : Json.decodeValue Step.decode step = .error fault) :
    IsLine (StepProblem.malformed fault.message).message :=
  isLine_append.2 ⟨by decide, Step.isLine_of_decodeValue h⟩

namespace Diagnostic

/-- The texts of a recording that a diagnostic repeats as they are. -/
def texts (d : Diagnostic) : List String :=
  match d.kind with
  | .unhandled => [d.stepName]
  | .failed _ => []

theorem repeats_unhandled (index : Nat) (kind : String) :
    Repeats (message ⟨index, kind, .unhandled⟩) [kind] := by
  have hStep : Repeats "Step " [] := .of_isLine (by decide)
  have hUnhandled : Repeats ": unhandled step type '" [] := .of_isLine (by decide)
  have hQuote : Repeats "'" [] := .of_isLine (by decide)
  exact (((hStep.append (.of_isLine (isLine_nat index))).append hUnhandled).append
    (.self kind)).append hQuote

theorem repeats_failed (index : Nat) (stepName : String) {problem : StepProblem}
    (h : IsLine problem.message) : Repeats (message ⟨index, stepName, .failed problem⟩) [] := by
  have hStep : IsLine "Step " := by decide
  have hColon : IsLine ": " := by decide
  exact .of_isLine (isLine_append.2
    ⟨isLine_append.2 ⟨isLine_append.2 ⟨hStep, isLine_nat index⟩, hColon⟩, h⟩)

end Diagnostic

theorem repeats_of_mem_diagnosticOf {index : Nat} {step : Json} {d : Diagnostic}
    (h : d ∈ diagnosticOf index step) : Repeats d.message d.texts := by
  unfold diagnosticOf stepBlock at h
  split at h
  · next hDecode =>
    cases h
    exact Diagnostic.repeats_failed _ _ (isLine_malformed hDecode)
  · split at h
    · contradiction
    · cases h
      exact Diagnostic.repeats_unhandled _ _
    · next hEmit =>
      cases h
      obtain ⟨hKnown, hLacks⟩ := lacks_of_emit hEmit
      exact Diagnostic.repeats_failed _ _ (isLine_problem hKnown hLacks)

/-- **A diagnostic repeats no text of its recording but the name of an unknown kind.** -/
theorem repeats_of_mem_diagnostics {r : Recording} {fallback : String} {d : Diagnostic}
    (h : d ∈ (ofRecording r fallback).diagnostics) : Repeats d.message d.texts := by
  rw [diagnostics_ofRecording, stepDiagnostics, List.mem_filterMap] at h
  obtain ⟨p, -, hOf⟩ := h
  exact repeats_of_mem_diagnosticOf hOf

end SessionReplay.Script
