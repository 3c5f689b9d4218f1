import SessionReplay.Proofs.Queue.Draining

/-!
# Waiting for an empty queue

A waiter listens, looks at the queue, and sleeps if there is a worker. Workers tell whoever listens
when they leave, which may be long after the queue was marked as empty, and when it is marked again
already.

* `System.Attended`: whoever sleeps untold has a worker that is yet to tell; `Attended.act` says
  that every action keeps it.
* `System.return_of_quiet`: without a worker a waiter is gone after three steps.
* `Dispatch.run_wakes`: waiters go only when all jobs have their outcomes, and none sleeps on.
-/

namespace SessionReplay

/-! ## Whoever sleeps will be told -/

/-- While a waiter sleeps and has not been told, the queue is marked or a worker is about to tell. -/
def System.Attended (s : System) : Prop :=
  .sleeping false ∈ s.waiters → s.queue.draining = true ∨ .leaving ∈ s.workers

/-- The mark of the queue is taken away by a worker that is leaving then, and by nothing else. -/
theorem draining_of_step {w w' : Worker} {now : Instant} {q q' : JobQueue}
    (h : w.step now q = (q', some w')) : w' = .leaving ∨ q'.draining = q.draining := by
  cases w with
  | free =>
    cases hWaiting : q.waiting with
    | nil =>
      rw [Worker.step, take_nil hWaiting] at h
      exact .inl (Option.some.inj (Prod.mk.inj h).2).symm
    | cons job others =>
      rw [Worker.step, take_cons hWaiting] at h
      obtain ⟨rfl, -⟩ := Prod.mk.inj h
      exact .inr rfl
  | leaving => cases h
  | _ =>
    obtain ⟨rfl, -⟩ := Prod.mk.inj h
    exact .inr rfl

theorem ne_leaving_of_step {w w' : Worker} {now : Instant} {q q' : JobQueue}
    (h : w.step now q = (q', some w')) : w ≠ .leaving := by
  rintro rfl
  cases h

theorem tell_ne_sleeping (w : Waiter) : w.tell ≠ .sleeping false := by
  cases w <;> simp [Waiter.tell]

/-- A waiter goes to sleep only where the queue is marked. -/
theorem sleeping_of_step {w : Waiter} {q : JobQueue} (h : w.step q = .sleeping false) :
    w = .sleeping false ∨ q.draining = true := by
  cases w with
  | listening told =>
    by_cases hMarked : q.draining = true
    · exact .inr hMarked
    · simp [Waiter.step, hMarked] at h
  | sleeping told => cases told <;> simp_all [Waiter.step]
  | _ => cases h

theorem mem_or_exists_of_mem_modify {α : Type} {f : α → α} {l : List α} {i : Nat} {b : α}
    (h : b ∈ l.modify i f) : b ∈ l ∨ ∃ a ∈ l, f a = b := by
  obtain ⟨j, hj⟩ := List.mem_iff_getElem?.1 h
  simp only [List.getElem?_modify, Option.map_eq_map, Option.map_eq_some_iff] at hj
  obtain ⟨a, ha, hb⟩ := hj
  by_cases hij : i = j
  · exact .inr ⟨a, List.mem_of_getElem? ha, by simpa [hij] using hb⟩
  · left
    obtain rfl : a = b := by simpa [hij] using hb
    exact List.mem_of_getElem? ha

namespace System.Attended

variable {s : System}

theorem workerStep (h : s.Attended) (i : Nat) (now : Instant) : (s.workerStep i now).Attended := by
  unfold System.workerStep
  split
  · exact h
  · next w hAt =>
    split
    · next q w' hStep =>
      intro hSleeps
      obtain ⟨hi, -⟩ := List.getElem?_eq_some_iff.1 hAt
      rcases draining_of_step hStep with rfl | hMark
      · exact .inr (List.mem_set hi _)
      · rcases h hSleeps with hMarked | hLeaving
        · exact .inl (hMark.trans hMarked)
        · right
          -- the worker that is leaving is another one, and stays where it is
          obtain ⟨j, hj⟩ := List.mem_iff_getElem?.1 hLeaving
          have hOther : i ≠ j := by
            rintro rfl
            exact ne_leaving_of_step hStep (Option.some.inj (hAt.symm.trans hj))
          apply List.mem_of_getElem? (i := j)
          rw [List.getElem?_set_ne hOther, hj]
    · intro hSleeps
      obtain ⟨w, -, hTold⟩ := List.mem_map.1 hSleeps
      exact absurd hTold (tell_ne_sleeping w)

theorem callEnd (h : s.Attended) (i : Nat) (behaviour : Behaviour) :
    (s.callEnd i behaviour).Attended := by
  intro hSleeps
  rcases h hSleeps with hMarked | hLeaving
  · exact .inl hMarked
  · right
    obtain ⟨j, hj⟩ := List.mem_iff_getElem?.1 hLeaving
    apply List.mem_of_getElem? (i := j)
    rw [System.callEnd, List.getElem?_modify, hj]
    by_cases hij : i = j <;> simp [hij, Worker.endCall]

theorem waiterStep (h : s.Attended) (i : Nat) : (s.waiterStep i).Attended := by
  intro hSleeps
  rcases mem_or_exists_of_mem_modify hSleeps with hOld | ⟨w, hMem, hStep⟩
  · exact h hOld
  · rcases sleeping_of_step hStep with rfl | hMarked
    · exact h hMem
    · exact .inl hMarked

theorem act (h : s.Attended) (a : Action) : (s.act a).Attended := by
  cases a with
  | submit job => exact fun _ => .inl rfl
  | workerStep i now => exact h.workerStep i now
  | callEnd i behaviour => exact h.callEnd i behaviour
  | arrival =>
    intro hSleeps
    rcases List.mem_append.1 hSleeps with hOld | hNew
    · exact h hOld
    · simp at hNew
  | waiterStep i => exact h.waiterStep i

end System.Attended

theorem History.run_attended (limit : Nat) (actions : List Action) :
    (run limit actions).system.Attended :=
  run_induction (P := fun h => h.system.Attended) (by intro hSleeps; cases hSleeps)
    (fun _ a h => h.act a) actions

/-! ## Who goes -/

namespace System

theorem waiter_of_waiterStep (s : System) (i : Nat) :
    (s.waiterStep i).waiters[i]? = s.waiters[i]?.map (Waiter.step s.queue) := by
  simp [waiterStep]

/-- A waiter goes when it looks at a queue that is not marked, and in no other way. -/
theorem gone_of_act {s : System} {a : Action} {i : Nat} (hBefore : s.waiters[i]? ≠ some .gone)
    (hAfter : (s.act a).waiters[i]? = some .gone) :
    a = .waiterStep i ∧ (∃ told, s.waiters[i]? = some (.listening told)) ∧
      s.queue.draining = false := by
  cases a with
  | submit job => exact absurd hAfter hBefore
  | callEnd j behaviour => exact absurd hAfter hBefore
  | workerStep j now =>
    exfalso
    simp only [act, workerStep] at hAfter
    split at hAfter
    · exact hBefore hAfter
    · split at hAfter
      · exact hBefore hAfter
      · rw [List.getElem?_map, Option.map_eq_some_iff] at hAfter
        obtain ⟨w, hAt, hTold⟩ := hAfter
        cases w <;> simp_all [Waiter.tell]
  | arrival =>
    exfalso
    by_cases hi : i < s.waiters.length
    · rw [act, arrival, List.getElem?_append_left hi] at hAfter
      exact hBefore hAfter
    · rw [act, arrival, List.getElem?_append_right (by omega)] at hAfter
      have hArriving := List.mem_of_getElem? hAfter
      simp at hArriving
  | waiterStep j =>
    by_cases hij : j = i
    · subst hij
      rw [act, waiter_of_waiterStep, Option.map_eq_some_iff] at hAfter
      obtain ⟨w, hAt, hStep⟩ := hAfter
      cases w with
      | listening told =>
        refine ⟨rfl, ⟨told, hAt⟩, ?_⟩
        by_contra hMarked
        simp [Waiter.step, hMarked] at hStep
      | sleeping told => cases told <;> cases hStep
      | arriving => cases hStep
      | gone => exact absurd hAt hBefore
    · exfalso
      simp [act, waiterStep, hij] at hAfter
      exact hBefore hAfter

/-- Without a worker a waiter wakes up, listens again and goes. -/
theorem gone_of_quiet {s : System} (h : s.Attended) (hMark : s.queue.draining = false)
    (hNobody : .leaving ∉ s.workers) {i : Nat} (hi : i < s.waiters.length) :
    (((s.waiterStep i).waiterStep i).waiterStep i).waiters[i]? = some .gone := by
  have hQueue (s : System) : (s.waiterStep i).queue = s.queue := rfl
  simp only [waiter_of_waiterStep, hQueue, List.getElem?_eq_getElem hi, Option.map_some,
    Option.some.injEq]
  cases hw : s.waiters[i] with
  | arriving => simp [Waiter.step, hMark]
  | listening told => simp [Waiter.step, hMark]
  | gone => rfl
  | sleeping told =>
    cases told with
    | true => simp [Waiter.step, hMark]
    | false =>
      have hSleeps : .sleeping false ∈ s.waiters := hw ▸ List.getElem_mem hi
      rcases h hSleeps with hMarked | hLeaving
      · rw [hMark] at hMarked
        cases hMarked
      · exact absurd hLeaving hNobody

end System

/-! ## Every run -/

namespace Dispatch

theorem run_attended (limit : Nat) (actions : List DispatchAction) :
    (run limit actions).history.system.Attended := by
  obtain ⟨whole, hWhole⟩ := settled_run limit actions
  intro hSleeps
  have hSettled : (run limit actions).settled.system.Attended := by
    rw [hWhole]
    exact History.run_attended limit whole
  -- the workers that are about to be started are not leaving
  rcases hSettled hSleeps with hMarked | hLeaving
  · exact .inl hMarked
  · right
    rcases List.mem_append.1 hLeaving with hThere | hStarting
    · exact hThere
    · cases (List.mem_replicate.1 hStarting).2

theorem gone_of_act {d : Dispatch} {a : DispatchAction} {i : Nat}
    (hBefore : d.history.system.waiters[i]? ≠ some .gone)
    (hAfter : (d.act a).history.system.waiters[i]? = some .gone) :
    a = .other (.waiterStep i) ∧ (∃ told, d.history.system.waiters[i]? = some (.listening told)) ∧
      d.history.system.queue.draining = false := by
  cases a with
  | mark job => exact absurd hAfter hBefore
  | start =>
    have hSame : d.start.history.system.waiters = d.history.system.waiters := by
      unfold start
      split <;> rfl
    rw [act, hSame] at hAfter
    exact absurd hAfter hBefore
  | other a =>
    obtain ⟨rfl, hRest⟩ := System.gone_of_act hBefore hAfter
    exact ⟨rfl, hRest⟩

/-- **Nobody goes too early, and nobody sleeps on.** A waiter goes when it looks at the queue, and
then no job waits or is in the slot, and all jobs that were submitted have their outcomes. While a
waiter sleeps and has not been told, there is a worker that has not left, or one that is about to
tell the waiters. Without any of these a waiter is gone after three steps of its own. -/
theorem run_wakes (limit : Nat) (actions : List DispatchAction) :
    let d := run limit actions
    let s := d.history.system
    (∀ a i, s.waiters[i]? ≠ some .gone → (d.act a).history.system.waiters[i]? = some .gone →
      a = .other (.waiterStep i) ∧ (∃ told, s.waiters[i]? = some (.listening told)) ∧ d.Done) ∧
    (.sleeping false ∈ s.waiters → s.queue.draining = true ∨ .leaving ∈ s.workers) ∧
    (s.queue.draining = false → .leaving ∉ s.workers → ∀ i < s.waiters.length,
      (run limit (actions ++ List.replicate 3 (.other (.waiterStep i)))).history.system.waiters[i]? =
        some .gone) := by
  intro d s
  refine ⟨?_, run_attended limit actions, ?_⟩
  · intro a i hBefore hAfter
    obtain ⟨hAction, hListening, hMark⟩ := gone_of_act hBefore hAfter
    exact ⟨hAction, hListening, done_of_unmarked hMark⟩
  · intro hMark hNobody i hi
    rw [run, List.foldl_append]
    exact System.gone_of_quiet (run_attended limit actions) hMark hNobody hi

/-- The waiter sleeps before the worker takes the job. The next submission starts a second worker
before the first one tells the waiter, who sleeps again, and is told by the second one too. -/
theorem run_wakes_twice :
    let job : Job := ⟨⟨1⟩, "login", "7", .null, ⟨0, 0⟩⟩
    let step (i : Nat) : DispatchAction := .other (.workerStep i ⟨0, 0⟩)
    let look : DispatchAction := .other (.waiterStep 0)
    let ends (i : Nat) : DispatchAction := .other (.callEnd i fun _ _ => .brokeDown "")
    let runs (i : Nat) : List DispatchAction := [step i, step i, ends i, step i, step i, step i]
    let actions : List DispatchAction :=
      [.other .arrival, look, .mark job, look, .start] ++ runs 0 ++
        [.mark job, .start, step 0, look, look, look] ++ runs 0 ++ [step 0]
    (run 5 actions).history.system.waiters = [.sleeping true] ∧
      (run 5 actions).history.system.queue.draining = false ∧
      (run 5 actions).history.system.workers = [] ∧
      (run 5 (actions ++ List.replicate 3 look)).history.system.waiters[0]? = some .gone := by
  intro job step look ends runs actions
  have hGone (actions : List DispatchAction)
      (hWaiters : (run 5 actions).history.system.waiters = [.sleeping true])
      (hMark : (run 5 actions).history.system.queue.draining = false)
      (hWorkers : (run 5 actions).history.system.workers = []) :
      (run 5 (actions ++ List.replicate 3 look)).history.system.waiters[0]? = some .gone :=
    (run_wakes 5 actions).2.2 hMark (by simp [hWorkers]) 0 (by simp [hWaiters])
  have hWaiters : (run 5 actions).history.system.waiters = [.sleeping true] := by decide +kernel
  have hMark : (run 5 actions).history.system.queue.draining = false := by decide +kernel
  have hWorkers : (run 5 actions).history.system.workers = [] :=
    List.length_eq_zero_iff.1 (by decide +kernel)
  exact ⟨hWaiters, hMark, hWorkers, hGone actions hWaiters hMark hWorkers⟩

end Dispatch
end SessionReplay
