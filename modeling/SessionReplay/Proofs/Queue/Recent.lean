import SessionReplay.Proofs.Queue.Starting

/-!
# The outcomes that are shown

The history of a queue is cut whenever an outcome is recorded, and so only ever holds the last
outcomes of all.

* `JobQueue.keepLast_append`: what was cut before makes no difference when the list is cut again.
* `Recorded`: the history of a scene and the outcomes that were noted; `turn_recorded` says that
  every turn keeps it.
* `Dispatch.run_recent`: a status shows the last outcomes, as many as are kept.
-/

namespace SessionReplay

/-! ## The last outcomes of a list -/

namespace JobQueue

theorem keepLast_suffix (limit : Nat) (l : List Outcome) : keepLast limit l <:+ l :=
  List.drop_suffix _ _

theorem length_keepLast (limit : Nat) (l : List Outcome) :
    (keepLast limit l).length = min limit l.length := by
  rw [keepLast, List.length_drop]
  omega

theorem keepLast_append (limit : Nat) (l : List Outcome) (o : Outcome) :
    keepLast limit (keepLast limit l ++ [o]) = keepLast limit (l ++ [o]) := by
  have hCut : keepLast limit l ++ [o] = (l ++ [o]).drop (l.length - limit) :=
    (List.drop_append_of_le_length (Nat.sub_le _ _)).symm
  have hKept := length_keepLast limit l
  rw [keepLast, List.length_append, hKept, hCut, List.drop_drop, keepLast, List.length_append]
  congr 1
  simp only [List.length_singleton]
  omega

end JobQueue

/-! ## The invariant -/

/-- The history of a scene is the end of the outcomes that were noted, and these have their times. -/
structure Recorded (limit : Nat) (s : Scene) : Prop where
  bound : s.queue.limit = limit
  history : s.queue.history = JobQueue.keepLast limit (s.finished.map Prod.snd)
  timed : ∀ p ∈ s.finished, p.2.finishedAt.isSome = true
  ends : ∀ job o, s.worker = some (.finished job o) → o.finishedAt.isSome = true

theorem start_recorded (limit : Nat) : Recorded limit (.start limit) where
  bound := rfl
  history := by simp [Scene.start, JobQueue.empty, JobQueue.keepLast]
  timed := by simp [Scene.start]
  ends := by simp [Scene.start]

/-- A turn in which no outcome is recorded. -/
theorem Recorded.goOn {limit : Nat} {s s' : Scene} (h : Recorded limit s)
    (hLimit : s'.queue.limit = s.queue.limit) (hHistory : s'.queue.history = s.queue.history)
    (hFinished : s'.finished = s.finished)
    (hEnds : ∀ job o, s'.worker = some (.finished job o) → o.finishedAt.isSome = true) :
    Recorded limit s' where
  bound := hLimit.trans h.bound
  history := by rw [hHistory, hFinished, h.history]
  timed := hFinished ▸ h.timed
  ends := hEnds

theorem Recorded.record {limit : Nat} {s : Scene} (h : Recorded limit s) {job : Job} {o : Outcome}
    (hWorker : s.worker = some (.finished job o)) :
    Recorded limit { s with
      queue := s.queue.record o
      worker := some .free
      finished := s.finished ++ [(job, o)] } where
  bound := h.bound
  history := by
    rw [JobQueue.record, h.bound, h.history, JobQueue.keepLast_append, List.map_append]
    rfl
  timed := by
    intro p hp
    rcases List.mem_append.1 hp with hp | hp
    · exact h.timed p hp
    · rw [List.mem_singleton.1 hp]
      exact h.ends job o hWorker
  ends := by simp

theorem turn_recorded {limit : Nat} {s s' : Scene} (h : Recorded limit s) (hTurn : Turn s s') :
    Recorded limit s' := by
  cases hTurn with
  | rest => exact h
  | submit job =>
    refine h.goOn rfl rfl rfl fun job o hWorker => ?_
    cases hBefore : s.worker with
    | none => simp [hBefore] at hWorker
    | some w => exact h.ends job o (by simpa [hBefore] using hWorker)
  | complete now _ | abort now _ =>
    refine h.goOn rfl rfl rfl fun job o hWorker => ?_
    cases hWorker
    rfl
  | record hWorker => exact h.record hWorker
  | _ =>
    refine h.goOn rfl rfl rfl fun job o hWorker => ?_
    cases hWorker

/-! ## Every run -/

namespace Dispatch

/-- **The history is the last outcomes in order.** A status shows the last of the outcomes that were
recorded, all of them or as many as are kept. The outcomes are those of the first submissions, in
their order: each carries the identifier and the names of its job, and the time of its end. -/
theorem run_recent (limit : Nat) (actions : List DispatchAction) :
    let d := run limit actions
    let outcomes := d.history.finished.map Prod.snd
    let recent := d.history.system.queue.status.recent
    recent <:+ outcomes ∧ recent.length = min limit outcomes.length ∧
    List.Forall₂ (fun job o => o.Of job ∧ o.finishedAt.isSome = true)
      (d.history.submitted.take outcomes.length) outcomes := by
  intro d outcomes recent
  obtain ⟨leaving, active, hs, hOrderly, hRecorded⟩ :=
    run_scene (P := fun s => Orderly s ∧ Recorded limit s)
      ⟨start_orderly limit, start_recorded limit⟩
      (fun _ _ h hTurn => ⟨turn_orderly h.1 hTurn, turn_recorded h.2 hTurn⟩) actions
  have hRecent : recent = JobQueue.keepLast limit outcomes := hRecorded.history
  have hFirst : d.history.submitted.take outcomes.length = d.history.finished.map Prod.fst := by
    rw [submitted_eq, started_eq, History.begun, List.append_assoc]
    apply List.take_left'
    rw [List.length_map, List.length_map]
  refine ⟨?_, ?_, ?_⟩
  · rw [hRecent]
    exact JobQueue.keepLast_suffix limit outcomes
  · rw [hRecent, JobQueue.length_keepLast]
  · rw [hFirst, List.forall₂_map_left_iff, List.forall₂_map_right_iff, List.forall₂_same]
    intro p hp
    exact ⟨hOrderly.outcomes p hp, hRecorded.timed p hp⟩

end Dispatch
end SessionReplay
