import SessionReplay.Proofs.Queue.Starting

/-!
# What is shown of the job that is being run

A stage is shown for whatever job is in the slot, and no job is named. It is the right job none the
less, because the slot belongs to the worker that shows the stage until its outcome is recorded.

* `Stage.place`: the place of a stage in the order of all stages.
* `RunningJob.Advances`: what one step makes of a job that stays in the slot.
* `Worker.Fits`: the stage that is shown fits what the worker is about to do; `turn_fitting` says
  that every turn keeps it.
* `turn_slot`: a job in the slot is the one of before, or it was started just now.
* `Dispatch.run_shows`: a call is shown at its stage, stages only move forward, and no worker shows
  a stage of another job than its own.
-/

namespace SessionReplay

/-! ## Stages in their order -/

def Stage.place (s : Stage) : Nat := Stage.all.idxOf s

theorem Stage.place_le_done (s : Stage) : s.place ≤ Stage.done.place := by
  cases s <;> decide

/-- The call behind another one is of the next stage. -/
theorem place_of_proceed {call next : Call} {o o' : Outcome} {result : Except Trouble call.Value}
    (h : call.proceed o result = (o', some next)) : next.stage.place = call.stage.place + 1 := by
  have hNext : ∀ p ∈ Stage.pipeline.zip Stage.pipeline.tail, p.2.place = p.1.place + 1 := by decide
  exact hNext _ (proceed_stage h)

/-- What one step makes of a job that stays in the slot: its stage stays, or is the next one or the
last one of all. -/
structure RunningJob.Advances (r r' : RunningJob) : Prop where
  item : r'.item = r.item
  startedAt : r'.startedAt = r.startedAt
  stage : r'.stage = r.stage ∨ r'.stage.place = r.stage.place + 1 ∨ r'.stage = .done

theorem RunningJob.Advances.refl (r : RunningJob) : r.Advances r := ⟨rfl, rfl, .inl rfl⟩

theorem RunningJob.Advances.place_le {r r' : RunningJob} (h : r.Advances r') :
    r.stage.place ≤ r'.stage.place := by
  rcases h.stage with hSame | hNext | hDone
  · exact Nat.le_of_eq (congrArg Stage.place hSame.symm)
  · omega
  · rw [hDone]
    exact r.stage.place_le_done

/-! ## The stage that is shown -/

/-- The stage that is shown while a worker is at this point. -/
def Worker.Fits : Worker → Stage → Prop
  | .ready _ _ call, shown => call.stage.place = shown.place + 1
  | .busy _ _ call, shown => shown = call.stage
  | _, _ => True

def Scene.Fitting (s : Scene) : Prop := ∀ w ∈ s.worker, ∀ r ∈ s.queue.slot, w.Fits r.stage

theorem start_fitting (limit : Nat) : (Scene.start limit).Fitting := by
  intro w hw
  cases hw

theorem turn_fitting {s s' : Scene} (h : s.Fitting) (hTurn : Turn s s') : s'.Fitting := by
  intro w hw r hr
  cases hTurn with
  | rest => exact h w hw r hr
  | submit job =>
    cases hWorker : s.worker with
    | none =>
      obtain rfl : Worker.free = w := by simpa [hWorker] using hw
      trivial
    | some w' =>
      obtain rfl : w' = w := by simpa [hWorker] using hw
      exact h w' hWorker r hr
  | take now _ _ =>
    cases hw
    cases hr
    show Stage.place .persisting = Stage.place .queued + 1
    decide
  | callBegins _ =>
    cases hw
    obtain ⟨before, -, rfl⟩ := Option.map_eq_some_iff.1 hr
    rfl
  | callEnds result hWorker hProceed =>
    cases hw
    have hShown : r.stage = _ := h _ hWorker r hr
    rw [Worker.Fits, place_of_proceed hProceed, hShown]
  | leave _ _ => cases hw
  | lastCallEnds | breakDown | complete | abort | record =>
    cases hw
    trivial

/-! ## The job in the slot -/

/-- A job in the slot was there before, or it was taken just now by a worker with nothing in
hand. -/
theorem turn_slot {s s' : Scene} (hOrderly : Orderly s) (h : s.Fitting) (hTurn : Turn s s')
    {r' : RunningJob} (hSlot : s'.queue.slot = some r') :
    (∃ r, s.queue.slot = some r ∧ r.Advances r') ∨
      s.queue.slot = none ∧ s.current = none ∧ s'.finished = s.finished ∧ s'.current.isSome := by
  have hStays (hSame : s'.queue.slot = s.queue.slot) :
      ∃ r, s.queue.slot = some r ∧ r.Advances r' := ⟨r', hSame ▸ hSlot, .refl r'⟩
  cases hTurn with
  | rest | submit | callEnds | lastCallEnds | breakDown | abort => exact .inl (hStays rfl)
  | take now hWorker _ =>
    have hNobody : s.current = none := by rw [Scene.current, hWorker]; rfl
    have hFree := hOrderly.shown
    rw [hNobody, Option.map_none, Option.map_eq_none_iff] at hFree
    exact .inr ⟨hFree, hNobody, rfl, rfl⟩
  | leave | record => cases hSlot
  | callBegins hWorker =>
    obtain ⟨r, hr, rfl⟩ := Option.map_eq_some_iff.1 hSlot
    exact .inl ⟨r, hr, rfl, rfl, .inr (.inl (h _ hWorker r hr))⟩
  | complete now hWorker =>
    obtain ⟨r, hr, rfl⟩ := Option.map_eq_some_iff.1 hSlot
    exact .inl ⟨r, hr, rfl, rfl, .inr (.inr rfl)⟩

/-- The stage that a worker shows in its next step, for the job that it has in hand. -/
def Worker.shows : Worker → Option (Job × Stage)
  | .ready job _ call => some (job, call.stage)
  | .complete job _ => some (job, .done)
  | _ => none

theorem job?_of_shows {w : Worker} {job : Job} {stage : Stage}
    (h : w.shows = some (job, stage)) : w.job? = some job := by
  cases w <;> cases h <;> rfl

theorem step_of_shows {w : Worker} {job : Job} {stage : Stage} (h : w.shows = some (job, stage))
    (now : Instant) (q : JobQueue) : ∃ w', w.step now q = (q.showStage stage, some w') := by
  cases w <;> cases h <;> exact ⟨_, rfl⟩

/-! ## Every run -/

namespace Dispatch

theorem begun_settled (d : Dispatch) : d.settled.begun = d.history.begun := by
  rw [History.begun, History.begun, current_settled]
  rfl

/-- A job in the slot was there before, unless one is started. -/
theorem slot_of_act {limit : Nat} {actions : List DispatchAction} {a : DispatchAction}
    {r' : RunningJob}
    (hSlot : (run limit (actions ++ [a])).history.system.queue.slot = some r') :
    (∃ r, (run limit actions).history.system.queue.slot = some r ∧ r.Advances r') ∨
      (run limit actions).history.system.queue.slot = none ∧
        (run limit actions).starts a ≠ [] := by
  obtain ⟨leaving, active, hs, hOrderly, hFitting⟩ :=
    run_scene (P := fun s => Orderly s ∧ s.Fitting) ⟨start_orderly limit, start_fitting limit⟩
      (fun _ _ h hTurn => ⟨turn_orderly h.1 hTurn, turn_fitting h.2 hTurn⟩) actions
  have hBegun := started_append limit actions a
  rw [started_eq, started_eq, run_append, ← begun_settled, ← begun_settled] at hBegun
  rw [run_append] at hSlot
  rcases (run limit actions).settled_act a with hSame | ⟨b, hNext⟩
  · have hQueue : ((run limit actions).act a).settled.system.queue.slot = some r' := hSlot
    rw [hSame] at hQueue
    exact .inl ⟨r', hQueue, .refl r'⟩
  · obtain ⟨leaving', active', hs', hTurn⟩ := act_follows hs b
    rw [← hNext] at hs' hTurn
    rcases turn_slot hOrderly hFitting hTurn hSlot with hOld | ⟨hFree, hNobody, hFinished, hTaken⟩
    · exact .inl hOld
    · refine .inr ⟨hFree, fun hNone => ?_⟩
      have hDone : ((run limit actions).act a).settled.finished =
          (run limit actions).settled.finished := hFinished
      -- the job that is in hand now would have been begun before
      rw [hNone, List.append_nil, History.begun, History.begun, hDone, current_eq hs,
        current_eq hs', hNobody, List.append_cancel_left_eq] at hBegun
      obtain ⟨job, hJob⟩ := Option.isSome_iff_exists.1 hTaken
      rw [hJob] at hBegun
      cases hBegun

theorem length_started_le (limit : Nat) (actions more : List DispatchAction) :
    (started limit actions).length ≤ (started limit (actions ++ more)).length := by
  rw [started, started, startsFrom_append, List.length_append]
  exact Nat.le_add_right _ _

/-- A job that stays in the slot keeps its names, and its stage does not go back. -/
theorem slot_of_run {limit : Nat} {actions more : List DispatchAction} {r' : RunningJob}
    (hStarted : (started limit (actions ++ more)).length = (started limit actions).length)
    (hSlot : (run limit (actions ++ more)).history.system.queue.slot = some r') :
    ∃ r, (run limit actions).history.system.queue.slot = some r ∧ r'.item = r.item ∧
      r'.startedAt = r.startedAt ∧ r.stage.place ≤ r'.stage.place := by
  induction more using List.reverseRecOn generalizing r' with
  | nil =>
    rw [List.append_nil] at hSlot
    exact ⟨r', hSlot, rfl, rfl, Nat.le_refl _⟩
  | append_singleton more a ih =>
    rw [← List.append_assoc] at hStarted hSlot
    have hBefore := length_started_le limit actions more
    rw [started_append, List.length_append] at hStarted
    rcases slot_of_act hSlot with ⟨r'', hMiddle, hLast⟩ | ⟨-, hStarts⟩
    · obtain ⟨r, hFirst, hItem, hTime, hPlace⟩ := ih (by omega) hMiddle
      exact ⟨r, hFirst, hLast.item.trans hItem, hLast.startedAt.trans hTime,
        Nat.le_trans hPlace hLast.place_le⟩
    · have hPos := List.length_pos_iff.2 hStarts
      omega

/-- The job that was started last is in the slot, where its names are shown. -/
structure Occupies (limit : Nat) (actions : List DispatchAction) (job : Job) (r : RunningJob) :
    Prop where
  slot : (run limit actions).history.system.queue.slot = some r
  item : r.item = QueuedJob.ofJob job
  last : (started limit actions).getLast? = some job

/-- The job that a worker has in hand is in the slot. -/
theorem occupies_of_job? {limit : Nat} {actions : List DispatchAction} {i : Nat} {w : Worker}
    {job : Job} (hAt : (run limit actions).history.system.workers[i]? = some w)
    (hJob : w.job? = some job) : ∃ r, Occupies limit actions job r := by
  obtain ⟨k, active, hCrew⟩ := exists_crew limit actions
  have hStays : w ≠ .leaving := by
    rintro rfl
    cases hJob
  obtain ⟨-, rfl⟩ := active_of_crew (hCrew ▸ hAt) hStays
  have hCurrent : (run limit actions).history.system.current = some job :=
    (current_of_crew hCrew).trans hJob
  have hShown := slot_shown limit actions
  rw [hCurrent] at hShown
  obtain ⟨r, hSlot, hItem⟩ := Option.map_eq_some_iff.1 hShown
  refine ⟨r, hSlot, hItem, ?_⟩
  rw [started_eq, History.begun, hCurrent, Option.toList_some, List.getLast?_concat]

theorem stage_of_busy {limit : Nat} {actions : List DispatchAction} {i : Nat} {job : Job}
    {o : Outcome} {call : Call} {r : RunningJob}
    (hAt : (run limit actions).history.system.workers[i]? = some (.busy job o call))
    (hSlot : (run limit actions).history.system.queue.slot = some r) : r.stage = call.stage := by
  obtain ⟨leaving, active, hs, hFitting⟩ :=
    run_scene (start_fitting limit) (fun _ _ => turn_fitting) actions
  have hSettled : (run limit actions).settled.system.workers[i]? = some (.busy job o call) := by
    obtain ⟨hi, -⟩ := List.getElem?_eq_some_iff.1 hAt
    rw [settled, List.getElem?_append_left hi, hAt]
  rw [hs.workers] at hSettled
  obtain ⟨-, rfl⟩ := active_of_crew hSettled (by simp)
  exact hFitting _ rfl r hSlot

theorem slot_of_shows {limit : Nat} {actions : List DispatchAction} {i : Nat} {w : Worker}
    {job : Job} {stage : Stage} {r : RunningJob}
    (hAt : (run limit actions).history.system.workers[i]? = some w)
    (hShows : w.shows = some (job, stage)) (now : Instant)
    (hSlot : (run limit actions).history.system.queue.slot = some r) :
    (run limit (actions ++ [.other (.workerStep i now)])).history.system.queue.slot =
      some { r with stage := stage } := by
  obtain ⟨w', hStep⟩ := step_of_shows hShows now (run limit actions).history.system.queue
  simp only [run_append, act, History.act, System.act, System.workerStep, hAt, hStep,
    JobQueue.showStage, hSlot, Option.map_some]

/-- **The right job at the right stage.** While a call is made for a job, the job is in the slot and
is shown at the stage of the call. A step leaves the stage that is shown of a job in the slot as it
is, or goes on to the next one, or to the end; so as long as no other job is started, the stages
only move forward. When a worker shows a stage, its own job is in the slot, and nothing but the
stage of this job is changed. -/
theorem run_shows (limit : Nat) (actions : List DispatchAction) :
    let s := (run limit actions).history.system
    (∀ (i : Nat) job o call, s.workers[i]? = some (.busy job o call) →
      ∃ r, Occupies limit actions job r ∧ r.stage = call.stage) ∧
    (∀ a r r', s.queue.slot = some r →
      (run limit (actions ++ [a])).history.system.queue.slot = some r' → r.Advances r') ∧
    (∀ more r r', s.queue.slot = some r →
      (run limit (actions ++ more)).history.system.queue.slot = some r' →
      (started limit (actions ++ more)).length = (started limit actions).length →
        r'.item = r.item ∧ r'.startedAt = r.startedAt ∧ r.stage.place ≤ r'.stage.place) ∧
    ∀ (i : Nat) now w job stage, s.workers[i]? = some w → w.shows = some (job, stage) →
      ∃ r, Occupies limit actions job r ∧
        (run limit (actions ++ [.other (.workerStep i now)])).history.system.queue.slot =
          some { r with stage := stage } := by
  intro s
  refine ⟨?_, ?_, ?_, ?_⟩
  · intro i job o call hAt
    obtain ⟨r, hOccupies⟩ := occupies_of_job? hAt rfl
    exact ⟨r, hOccupies, stage_of_busy hAt hOccupies.slot⟩
  · intro a r r' hSlot hSlot'
    rcases slot_of_act hSlot' with ⟨before, hBefore, hAdvances⟩ | ⟨hFree, -⟩
    · obtain rfl : before = r := Option.some.inj (hBefore.symm.trans hSlot)
      exact hAdvances
    · cases hFree.symm.trans hSlot
  · intro more r r' hSlot hSlot' hStarted
    obtain ⟨before, hBefore, hRest⟩ := slot_of_run hStarted hSlot'
    obtain rfl : before = r := Option.some.inj (hBefore.symm.trans hSlot)
    exact hRest
  · intro i now w job stage hAt hShows
    obtain ⟨r, hOccupies⟩ := occupies_of_job? hAt (job?_of_shows hShows)
    exact ⟨r, hOccupies, slot_of_shows hAt hShows now hOccupies.slot⟩

/-- A recording that could not be stored takes its job to the end at once. -/
theorem run_shows_unstored :
    let job : Job := ⟨⟨1⟩, "login", "7", .null, ⟨0, 0⟩⟩
    let step : DispatchAction := .other (.workerStep 0 ⟨0, 0⟩)
    let failing : Behaviour := fun _ _ => .returned (.error ⟨"disk full", []⟩)
    let actions : List DispatchAction := [.mark job, .start, step, step]
    let more : List DispatchAction := [.other (.callEnd 0 failing), step]
    (run 5 actions).history.system.workers[0]? =
        some (.busy job (Outcome.start job ⟨0, 0⟩) .persist) ∧
      ∃ r r', Occupies 5 actions job r ∧ r.stage = .persisting ∧
        (run 5 (actions ++ more)).history.system.queue.slot = some r' ∧ r'.stage = .done ∧
        r'.item = r.item ∧ r.stage.place ≤ r'.stage.place := by
  intro job step failing actions more
  obtain ⟨hBusy, -, hForward, -⟩ := run_shows 5 actions
  have hAt : (run 5 actions).history.system.workers[0]? =
      some (.busy job (Outcome.start job ⟨0, 0⟩) .persist) := rfl
  have hSlot : (run 5 (actions ++ more)).history.system.queue.slot =
      some ⟨"login", "7", .done, ⟨0, 0⟩⟩ := by decide +kernel
  have hStarted : (started 5 (actions ++ more)).length = (started 5 actions).length := by
    decide +kernel
  obtain ⟨r, hOccupies, hStage⟩ := hBusy 0 _ _ _ hAt
  obtain ⟨hItem, -, hPlace⟩ := hForward more r _ hOccupies.slot hSlot hStarted
  exact ⟨hAt, r, _, hOccupies, hStage, hSlot, rfl, hItem, hPlace⟩

end Dispatch
end SessionReplay
