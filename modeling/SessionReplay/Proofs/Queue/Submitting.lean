import SessionReplay.Queue.Api

/-!
# Submissions are taken as a whole or not at all

* `Submission.Complete`: a submission in which no part is missing, with its parts.
* `toJob?_eq_some_iff`: a submission gives a job exactly if it is complete.
* `respond_submission`: the queue has one job more, made of the parts of the submission, or the
  system is the one that it was.
-/

namespace SessionReplay

/-! ## Complete submissions -/

namespace Submission

/-- The parts of a submission: a name that is not empty, a recording that is not `null`, and a run
identifier that is a text and not empty, or the text of a number. -/
structure Complete (s : Submission) (name : String) (recording : Json) (runId : String) : Prop where
  givesName : s.testName = some name
  named : name ≠ ""
  givesRecording : s.recording = some recording
  recorded : recording ≠ .null
  givesRunId : (s.runId = some (.string runId) ∧ runId ≠ "") ∨
    ∃ n, s.runId = some (.number n) ∧ runId = n.text

theorem name?_eq_some_iff {s : Submission} {name : String} :
    s.name? = some name ↔ s.testName = some name ∧ name ≠ "" := by
  simp [name?, Option.filter_eq_some_iff]

theorem recording?_eq_some_iff {s : Submission} {v : Json} :
    s.recording? = some v ↔ s.recording = some v ∧ v ≠ .null := by
  rw [recording?, Option.filter_eq_some_iff]
  cases v <;> simp [Json.isNull]

theorem runId?_eq_some_iff {s : Submission} {id : String} :
    s.runId? = some id ↔ (s.runId = some (.string id) ∧ id ≠ "") ∨
      ∃ n, s.runId = some (.number n) ∧ id = n.text := by
  cases hRun : s.runId with
  | none => simp [runId?, hRun]
  | some v =>
    cases v with
    | string text =>
      by_cases hEmpty : text = ""
      · simp [runId?, hRun, hEmpty]
      · simp [runId?, hRun, hEmpty]
        grind
    | number n => simp [runId?, hRun, eq_comm]
    | _ => simp [runId?, hRun]

theorem toJob?_eq_some_iff {s : Submission} {id : Identifier} {now : Instant} {job : Job} :
    s.toJob? id now = some job ↔ ∃ name recording runId, s.Complete name recording runId ∧
      job = ⟨id, name, runId, recording, now⟩ := by
  simp only [toJob?, Option.bind_eq_bind, Option.bind_eq_some_iff, name?_eq_some_iff,
    recording?_eq_some_iff, runId?_eq_some_iff, Option.some_inj]
  constructor
  · rintro ⟨name, ⟨hName, hNamed⟩, v, ⟨hRecording, hRecorded⟩, runId, hRun, rfl⟩
    exact ⟨name, v, runId, ⟨hName, hNamed, hRecording, hRecorded, hRun⟩, rfl⟩
  · rintro ⟨name, v, runId, hComplete, rfl⟩
    exact ⟨name, ⟨hComplete.givesName, hComplete.named⟩, v,
      ⟨hComplete.givesRecording, hComplete.recorded⟩, runId, hComplete.givesRunId, rfl⟩

end Submission

/-! ## The answer to a submission -/

/-- The parts of the submission in a request, if it can be read and nothing is missing. -/
def ApiRequest.Offers (r : ApiRequest) (name : String) (recording : Json) (runId : String) : Prop :=
  ∃ submission, readSubmission r = .ok submission ∧ submission.Complete name recording runId

/-- A request offers one submission at most. -/
theorem ApiRequest.Offers.unique {r : ApiRequest} {name name' : String} {recording recording' : Json}
    {runId runId' : String} (h : r.Offers name recording runId)
    (h' : r.Offers name' recording' runId') :
    name = name' ∧ recording = recording' ∧ runId = runId' := by
  obtain ⟨submission, hRead, hComplete⟩ := h
  obtain ⟨submission', hRead', hComplete'⟩ := h'
  obtain rfl := Except.ok.inj (hRead.symm.trans hRead')
  have hRun := Submission.runId?_eq_some_iff.mpr hComplete.givesRunId
  have hRun' := Submission.runId?_eq_some_iff.mpr hComplete'.givesRunId
  exact ⟨Option.some.inj (hComplete.givesName.symm.trans hComplete'.givesName),
    Option.some.inj (hComplete.givesRecording.symm.trans hComplete'.givesRecording),
    Option.some.inj (hRun.symm.trans hRun')⟩

namespace System

/-- A system in which one job more is waiting, with a worker if it had none. -/
def withJob (s : System) (job : Job) : System where
  queue := { s.queue with waiting := s.queue.waiting ++ [job], draining := true }
  workers := if s.queue.draining then s.workers else s.workers ++ [.free]
  waiters := s.waiters

theorem respondToSubmission_cases (s : System) (id : Identifier) (now : Instant) (r : ApiRequest) :
    (∃ name recording runId, r.Offers name recording runId ∧
      s.respondToSubmission id now r =
        (.ok (Accepted.mk (acceptedMessage name) s.queue.position.toUInt64).toJson,
          s.withJob ⟨id, name, runId, recording, now⟩)) ∨
    (¬ ∃ name recording runId, r.Offers name recording runId) ∧
      ∃ reason, s.respondToSubmission id now r = (.badRequest reason, s) := by
  cases hRead : readSubmission r with
  | error reason =>
    refine .inr ⟨?_, reason, by rw [respondToSubmission, hRead]⟩
    rintro ⟨_, _, _, _, hOk, -⟩
    rw [hRead] at hOk
    cases hOk
  | ok submission =>
    cases hJob : submission.toJob? id now with
    | some job =>
      obtain ⟨name, recording, runId, hComplete, rfl⟩ := Submission.toJob?_eq_some_iff.mp hJob
      refine .inl ⟨name, recording, runId, ⟨submission, hRead, hComplete⟩, ?_⟩
      simp only [respondToSubmission, hRead, hJob]
      rfl
    | none =>
      refine .inr ⟨?_, Submission.missingParts, by simp only [respondToSubmission, hRead, hJob]⟩
      rintro ⟨name, recording, runId, _, hOk, hComplete⟩
      rw [hRead] at hOk
      obtain rfl := Except.ok.inj hOk
      have hSome : submission.toJob? id now = some ⟨id, name, runId, recording, now⟩ :=
        Submission.toJob?_eq_some_iff.mpr ⟨name, recording, runId, hComplete, rfl⟩
      rw [hJob] at hSome
      cases hSome

/-- **All or nothing.** A submission is accepted exactly if it can be read and no part of it is
missing. Then one job is put behind those that wait, with the name, the recording and the run
identifier of the submission, and the answer tells how many jobs are ahead of it. Any other
submission is refused, and the system stays as it was. -/
theorem respond_submission (s : System) (id : Identifier) (now : Instant) (r : ApiRequest)
    (hPath : Endpoint.ofPath? r.path = some .submit) (hMethod : r.method = "POST") :
    ((s.respond id now r).1.status = 200 ↔ ∃ name recording runId, r.Offers name recording runId) ∧
    (∀ name recording runId, r.Offers name recording runId →
      s.respond id now r =
        (.ok (Accepted.mk (acceptedMessage name) s.queue.position.toUInt64).toJson,
          s.withJob ⟨id, name, runId, recording, now⟩)) ∧
    ((¬ ∃ name recording runId, r.Offers name recording runId) →
      (s.respond id now r).1.status = 400 ∧ (s.respond id now r).2 = s) := by
  have hRespond : s.respond id now r = s.respondToSubmission id now r := by
    rw [respond, hPath]
    exact if_pos hMethod
  rw [hRespond]
  rcases respondToSubmission_cases s id now r with
    ⟨name, recording, runId, hOffers, hEq⟩ | ⟨hNone, reason, hEq⟩
  · rw [hEq]
    have hSome : ∃ name recording runId, r.Offers name recording runId :=
      ⟨name, recording, runId, hOffers⟩
    refine ⟨⟨fun _ => hSome, fun _ => rfl⟩, ?_, fun hNone => absurd hSome hNone⟩
    intro name' recording' runId' hOffers'
    obtain ⟨rfl, rfl, rfl⟩ := hOffers.unique hOffers'
    rfl
  · rw [hEq]
    refine ⟨⟨fun hOk => ?_, fun hSome => absurd hSome hNone⟩, ?_, fun _ => ⟨rfl, rfl⟩⟩
    · exact absurd (show (400 : Nat) = 200 from hOk) (by decide)
    · intro name recording runId hOffers
      exact absurd ⟨name, recording, runId, hOffers⟩ hNone

/-- A submission whose run is a number, while a job is being run and another one waits. -/
theorem respond_submission_busy :
    let waiting : Job := ⟨⟨1⟩, "logout", "6", .bool true, ⟨0, 0⟩⟩
    let s : System :=
      ⟨{ waiting := [waiting], slot := some ⟨"home", "5", .executing, ⟨0, 0⟩⟩, draining := true
         limit := 5 }, [.leaving], []⟩
    let r : ApiRequest :=
      ⟨"POST", "/api/run-test", some "application/json",
        "\x7b\"TestName\":\"login\",\"Recording\":[1],\"TestRunId\":7\x7d"⟩
    ∃ recording, r.Offers "login" recording "7" ∧
      s.respond ⟨2⟩ ⟨3, 0⟩ r =
        (.ok (Accepted.mk "Received login. Queued for execution." 2).toJson,
          s.withJob ⟨⟨2⟩, "login", "7", recording, ⟨3, 0⟩⟩) := by
  intro waiting s r
  have hParts : ((readSubmission r).toOption.bind (·.toJob? ⟨2⟩ ⟨3, 0⟩)).map
      (fun job => (job.testName, job.runId)) = some ("login", "7") := by decide +kernel
  cases hRead : readSubmission r with
  | error reason =>
    rw [hRead] at hParts
    cases hParts
  | ok submission =>
    rw [hRead] at hParts
    obtain ⟨job, hJob, hNames⟩ := Option.map_eq_some_iff.mp hParts
    obtain ⟨name, recording, runId, hComplete, rfl⟩ := Submission.toJob?_eq_some_iff.mp hJob
    obtain ⟨rfl, rfl⟩ := Prod.mk.inj hNames
    have hOffers : r.Offers "login" recording "7" := ⟨submission, hRead, hComplete⟩
    exact ⟨recording, hOffers,
      (respond_submission s ⟨2⟩ ⟨3, 0⟩ r (by decide +kernel) rfl).2.1 _ _ _ hOffers⟩

end System
end SessionReplay
