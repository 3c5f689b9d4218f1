import SessionReplay.Proofs.Queue.History

/-!
# The turns of a system

In every reachable system there is at most one worker besides those that are about to leave, and
the queue is marked as having a worker exactly if there is one. So a system is a queue and perhaps
a worker, and `Turn` lists everything that can become of the two.

* `System.Staffed`: the workers that are leaving, and behind them the one that is not.
* `Scene`: a queue, its worker, and what was noted.
* `Turn`: one change of a scene.
* `act_turn`: every action is a turn; `run_scene`: what the turns keep holds after every run.
-/

namespace SessionReplay

/-! ## Workers that leave and the one that stays -/

/-- As many workers that are leaving, and the one that is not, if there is one. -/
def crew (leaving : Nat) (active : Option Worker) : List Worker :=
  List.replicate leaving .leaving ++ active.toList

theorem crew_leaving {k i : Nat} (active : Option Worker) (h : i < k) :
    (crew k active)[i]? = some .leaving := by
  rw [crew, List.getElem?_append_left (by simpa using h)]
  simp [h]

theorem crew_active (k : Nat) (active : Option Worker) : (crew k active)[k]? = active := by
  rw [crew, List.getElem?_append_right (by simp)]
  cases active <;> simp

theorem crew_beyond {k i : Nat} (active : Option Worker) (h : k < i) :
    (crew k active)[i]? = none := by
  rw [List.getElem?_eq_none_iff]
  cases active <;> simp [crew] <;> omega

/-- Whoever is not leaving is the one that stays. -/
theorem active_of_crew {k i : Nat} {active : Option Worker} {w : Worker}
    (h : (crew k active)[i]? = some w) (hStays : w ≠ .leaving) : i = k ∧ active = some w := by
  rcases Nat.lt_trichotomy i k with hi | rfl | hi
  · rw [crew_leaving active hi] at h
    exact absurd (Option.some.inj h).symm hStays
  · rw [crew_active] at h
    exact ⟨rfl, h⟩
  · rw [crew_beyond active hi] at h
    cases h

theorem set_crew (k : Nat) (w w' : Worker) : (crew k (some w)).set k w' = crew k (some w') := by
  rw [crew, List.set_append_right _ _ (by simp)]
  simp [crew]

theorem eraseIdx_crew {k i : Nat} (active : Option Worker) (h : i < k) :
    (crew k active).eraseIdx i = crew (k - 1) active := by
  rw [crew, List.eraseIdx_append_of_lt_length (by simpa using h)]
  simp [crew, List.eraseIdx_replicate, h]

theorem crew_succ_none (k : Nat) : crew k (some .leaving) = crew (k + 1) none := by
  simp [crew, List.replicate_succ']

theorem modify_eq_self {α : Type} {f : α → α} {l : List α} {i : Nat}
    (h : ∀ a, l[i]? = some a → f a = a) : l.modify i f = l := by
  apply List.ext_getElem?
  intro j
  rw [List.getElem?_modify]
  by_cases hij : i = j
  · subst hij
    cases hl : l[i]? with
    | none => rfl
    | some a => simp [h a hl]
  · simp [hij]

theorem modify_crew (k : Nat) (f : Worker → Worker) (w : Worker) :
    (crew k (some w)).modify k f = crew k (some (f w)) := by
  apply List.ext_getElem?
  intro j
  rw [List.getElem?_modify]
  rcases Nat.lt_trichotomy j k with h | rfl | h
  · simp [crew_leaving _ h, Nat.ne_of_gt h]
  · simp [crew_active]
  · simp [crew_beyond _ h]

/-- The workers of a system that are leaving and the one that is not, whose presence the queue
is marked with. -/
structure System.Staffed (s : System) (leaving : Nat) (active : Option Worker) : Prop where
  workers : s.workers = crew leaving active
  stays : active ≠ some .leaving
  draining : s.queue.draining = active.isSome

/-! ## Scenes and turns -/

structure Scene where
  queue : JobQueue
  worker : Option Worker
  submitted : List Job
  finished : List (Job × Outcome)
  events : List CallEvent

def History.scene (h : History) (active : Option Worker) : Scene :=
  ⟨h.system.queue, active, h.submitted, h.finished, h.events⟩

/-- All that can become of a scene at once. -/
inductive Turn (s : Scene) : Scene → Prop where
  | rest : Turn s s
  | submit (job : Job) :
    Turn s { s with
      queue := s.queue.submit job
      worker := some (s.worker.getD .free)
      submitted := s.submitted ++ [job] }
  | take {job : Job} {others : List Job} (now : Instant) (hWorker : s.worker = some .free)
    (hWaiting : s.queue.waiting = job :: others) :
    Turn s { s with
      queue := { s.queue with waiting := others, slot := some (RunningJob.start job now) }
      worker := some (.ready job (Outcome.start job now) .persist) }
  | leave (hWorker : s.worker = some .free) (hWaiting : s.queue.waiting = []) :
    Turn s { s with queue := { s.queue with slot := none, draining := false }, worker := none }
  | callBegins {job : Job} {o : Outcome} {call : Call}
    (hWorker : s.worker = some (.ready job o call)) :
    Turn s { s with
      queue := s.queue.showStage call.stage
      worker := some (.busy job o call)
      events := s.events ++ [.began job call] }
  | callEnds {job : Job} {o o' : Outcome} {call next : Call} (result : Except Trouble call.Value)
    (hWorker : s.worker = some (.busy job o call))
    (hProceed : call.proceed o result = (o', some next)) :
    Turn s { s with
      worker := some (.ready job o' next)
      events := s.events ++ [.ended job call] }
  | lastCallEnds {job : Job} {o o' : Outcome} {call : Call} (result : Except Trouble call.Value)
    (hWorker : s.worker = some (.busy job o call))
    (hProceed : call.proceed o result = (o', none)) :
    Turn s { s with worker := some (.complete job o'), events := s.events ++ [.ended job call] }
  | breakDown {job : Job} {o : Outcome} {call : Call} (report : String)
    (hWorker : s.worker = some (.busy job o call)) :
    Turn s { s with worker := some (.aborted job report), events := s.events ++ [.ended job call] }
  | complete {job : Job} {o : Outcome} (now : Instant) (hWorker : s.worker = some (.complete job o)) :
    Turn s { s with
      queue := s.queue.showStage .done
      worker := some (.finished job (o.finish now)) }
  | abort {job : Job} {report : String} (now : Instant)
    (hWorker : s.worker = some (.aborted job report)) :
    Turn s { s with
      worker :=
        some (.finished job (Worker.abortedOutcome job s.queue.shownStage report now)) }
  | record {job : Job} {o : Outcome} (hWorker : s.worker = some (.finished job o)) :
    Turn s { s with
      queue := s.queue.record o
      worker := some .free
      finished := s.finished ++ [(job, o)] }

/-! ## Every action is a turn -/

/-- What an action makes of a staffed system. -/
def Follows (h : History) (active : Option Worker) (h' : History) : Prop :=
  ∃ leaving active', h'.system.Staffed leaving active' ∧
    Turn (h.scene active) (h'.scene active')

/-- An action that changes no worker, no queue and no note. -/
theorem follows_rest {h h' : History} {k : Nat} {active : Option Worker}
    (hs : h.system.Staffed k active) (hWorkers : h'.system.workers = h.system.workers)
    (hScene : h'.scene active = h.scene active) : Follows h active h' := by
  have hQueue : h'.system.queue = h.system.queue := congrArg Scene.queue hScene
  refine ⟨k, active, ⟨?_, hs.stays, ?_⟩, hScene ▸ .rest⟩
  · rw [hWorkers, hs.workers]
  · rw [hQueue, hs.draining]

theorem submit_follows {h : History} {k : Nat} {active : Option Worker}
    (hs : h.system.Staffed k active) (job : Job) : Follows h active (h.act (.submit job)) := by
  refine ⟨k, some (active.getD .free), ⟨?_, ?_, rfl⟩, ?_⟩
  · simp only [History.act, System.act, System.submit, hs.draining, hs.workers]
    cases active <;> simp [crew]
  · have := hs.stays
    cases active <;> simp_all
  · have hTurn := Turn.submit (s := h.scene active) job
    simpa [History.scene, History.act, History.submissions, History.outcomes, History.calls,
      System.act, System.submit] using hTurn

/-- The worker itself, unless it is about to leave. -/
@[simp]
def Worker.staying : Worker → Option Worker
  | .leaving => none
  | w => some w

theorem crew_staying (k : Nat) (w : Worker) :
    ∃ leaving, crew k (some w) = crew leaving w.staying := by
  cases w with
  | leaving => exact ⟨k + 1, crew_succ_none k⟩
  | _ => exact ⟨k, rfl⟩

theorem staying_ne_leaving (w : Worker) : w.staying ≠ some .leaving := by
  cases w <;> simp [Worker.staying]

theorem take_nil {q : JobQueue} {now : Instant} (h : q.waiting = []) :
    q.take now = (none, { q with slot := none, draining := false }) := by
  unfold JobQueue.take
  split
  · rename_i hCons
    rw [h] at hCons
    cases hCons
  · rfl

theorem take_cons {q : JobQueue} {now : Instant} {job : Job} {others : List Job}
    (h : q.waiting = job :: others) :
    q.take now =
      (some job, { q with waiting := others, slot := some (RunningJob.start job now) }) := by
  unfold JobQueue.take
  split
  · rename_i hCons
    rw [h] at hCons
    cases hCons
    rfl
  · rename_i hNil
    rw [h] at hNil
    cases hNil

/-- A worker that stays makes one of the turns, and is marked as long as it stays. -/
theorem step_turn {s : Scene} {w : Worker} (hWorker : s.worker = some w) (hStays : w ≠ .leaving)
    (hDraining : s.queue.draining = true) (now : Instant) :
    ∃ q w', w.step now s.queue = (q, some w') ∧ q.draining = w'.staying.isSome ∧
      Turn s ⟨q, w'.staying, s.submitted, s.finished ++ w.records, s.events ++ w.begins⟩ := by
  cases w with
  | free =>
    cases hWaiting : s.queue.waiting with
    | nil =>
      refine ⟨_, .leaving, by rw [Worker.step, take_nil hWaiting], rfl, ?_⟩
      simpa [Worker.records, Worker.begins] using Turn.leave hWorker hWaiting
    | cons job others =>
      refine ⟨{ s.queue with waiting := others, slot := some (RunningJob.start job now) },
        .ready job (Outcome.start job now) .persist, by rw [Worker.step, take_cons hWaiting],
        hDraining, ?_⟩
      simpa [Worker.records, Worker.begins] using Turn.take now hWorker hWaiting
  | ready job o call =>
    refine ⟨_, .busy job o call, rfl, hDraining, ?_⟩
    simpa [Worker.records, Worker.begins] using Turn.callBegins hWorker
  | busy job o call =>
    refine ⟨_, .busy job o call, rfl, hDraining, ?_⟩
    have hRest := Turn.rest (s := s)
    rw [show (Worker.busy job o call).staying = s.worker from hWorker.symm]
    simpa [Worker.records, Worker.begins] using hRest
  | complete job o =>
    refine ⟨_, .finished job (o.finish now), rfl, hDraining, ?_⟩
    simpa [Worker.records, Worker.begins] using Turn.complete now hWorker
  | aborted job report =>
    refine ⟨_, .finished job (Worker.abortedOutcome job s.queue.shownStage report now), rfl,
      hDraining, ?_⟩
    simpa [Worker.records, Worker.begins] using Turn.abort now hWorker
  | finished job o =>
    refine ⟨_, .free, rfl, hDraining, ?_⟩
    simpa [Worker.records, Worker.begins] using Turn.record hWorker
  | leaving => exact absurd rfl hStays

/-- A worker that is leaving tells the waiters and is gone. -/
theorem leaving_follows {h : History} {k i : Nat} {active : Option Worker}
    (hs : h.system.Staffed k active) (hi : i < k) (now : Instant) :
    Follows h active (h.act (.workerStep i now)) := by
  have hAt : h.system.workers[i]? = some .leaving := by rw [hs.workers, crew_leaving active hi]
  have hAct : h.system.act (.workerStep i now) = ⟨h.system.queue, h.system.workers.eraseIdx i,
      h.system.waiters.map Waiter.tell⟩ := by
    simp only [System.act, System.workerStep, hAt, Worker.step]
  refine ⟨k - 1, active, ⟨?_, hs.stays, ?_⟩, ?_⟩
  · rw [History.act, hAct, hs.workers, eraseIdx_crew active hi]
  · rw [History.act, hAct, hs.draining]
  · have hRest := Turn.rest (s := h.scene active)
    simpa [History.scene, History.act, History.submissions, History.outcomes, History.calls,
      hAct, hAt, Worker.records, Worker.begins] using hRest

theorem active_follows {h : History} {k : Nat} {w : Worker} (hs : h.system.Staffed k (some w))
    (now : Instant) : Follows h (some w) (h.act (.workerStep k now)) := by
  have hStays : w ≠ .leaving := fun hEq => hs.stays (congrArg some hEq)
  obtain ⟨q, w', hStep, hDraining, hTurn⟩ :=
    step_turn (s := h.scene (some w)) rfl hStays hs.draining now
  have hAt : h.system.workers[k]? = some w := by rw [hs.workers, crew_active]
  have hAct : h.system.act (.workerStep k now) =
      { h.system with queue := q, workers := h.system.workers.set k w' } := by
    simp only [History.scene] at hStep
    simp only [System.act, System.workerStep, hAt, hStep]
  obtain ⟨leaving, hCrew⟩ := crew_staying k w'
  refine ⟨leaving, w'.staying, ⟨?_, staying_ne_leaving w', ?_⟩, ?_⟩
  · rw [History.act, hAct, hs.workers, set_crew, hCrew]
  · rw [History.act, hAct, hDraining]
  · simpa [History.scene, History.act, History.submissions, History.outcomes, History.calls,
      hAct, hAt] using hTurn

theorem workerStep_follows {h : History} {k : Nat} {active : Option Worker}
    (hs : h.system.Staffed k active) (i : Nat) (now : Instant) :
    Follows h active (h.act (.workerStep i now)) := by
  have hNobody (hAt : h.system.workers[i]? = none) :
      Follows h active (h.act (.workerStep i now)) :=
    follows_rest hs (by simp [History.act, System.act, System.workerStep, hAt])
      (by simp [History.scene, History.act, History.submissions, History.outcomes, History.calls,
        System.act, System.workerStep, hAt])
  rcases Nat.lt_trichotomy i k with hi | rfl | hi
  · exact leaving_follows hs hi now
  · cases active with
    | none => exact hNobody (by rw [hs.workers, crew_active])
    | some w => exact active_follows hs now
  · exact hNobody (by rw [hs.workers, crew_beyond active hi])

/-! ## The end of a call -/

theorem endCall_turn {s : Scene} {w : Worker} (hWorker : s.worker = some w)
    (behaviour : Behaviour) :
    Turn s { s with worker := some (w.endCall behaviour), events := s.events ++ w.ends } := by
  cases w with
  | busy job o call =>
    cases hEnding : behaviour job call with
    | brokeDown report =>
      simpa [Worker.endCall, Worker.ends, hEnding] using Turn.breakDown report hWorker
    | returned result =>
      rcases hProceed : call.proceed o result with ⟨o', _ | next⟩
      · simpa [Worker.endCall, Worker.ends, hEnding, hProceed] using
          Turn.lastCallEnds result hWorker hProceed
      · simpa [Worker.endCall, Worker.ends, hEnding, hProceed] using
          Turn.callEnds result hWorker hProceed
  | _ =>
    have hRest := Turn.rest (s := s)
    simpa [Worker.endCall, Worker.ends, ← hWorker] using hRest

theorem endCall_ne_leaving {w : Worker} (h : w ≠ .leaving) (behaviour : Behaviour) :
    w.endCall behaviour ≠ .leaving := by
  cases w with
  | busy job o call =>
    rw [Worker.endCall]
    split
    · simp
    · split <;> simp
  | leaving => exact absurd rfl h
  | _ => simp [Worker.endCall]

/-- The end of a call changes a worker that is in one, and this is the worker that stays. -/
theorem callEnd_cases {s : System} {k : Nat} {active : Option Worker} (hs : s.Staffed k active)
    (i : Nat) (behaviour : Behaviour) :
    (s.callEnd i behaviour = s ∧ ∀ job o call, s.workers[i]? ≠ some (.busy job o call)) ∨
    ∃ job o call, active = some (.busy job o call) ∧ s.workers[i]? = some (.busy job o call) ∧
      (s.callEnd i behaviour).Staffed k (some ((Worker.busy job o call).endCall behaviour)) := by
  by_cases hBusy : ∃ job o call, s.workers[i]? = some (.busy job o call)
  · obtain ⟨job, o, call, hAt⟩ := hBusy
    obtain ⟨rfl, hActive⟩ := active_of_crew (hs.workers ▸ hAt) (by simp)
    refine .inr ⟨job, o, call, hActive, hAt, ⟨?_, ?_, ?_⟩⟩
    · simp only [System.callEnd, hs.workers, hActive, modify_crew]
    · exact fun hEq => endCall_ne_leaving (by simp) behaviour (Option.some.inj hEq)
    · rw [System.callEnd, hs.draining, hActive]
      rfl
  · have hIdle (job : Job) (o : Outcome) (call : Call) :
        s.workers[i]? ≠ some (.busy job o call) := fun hAt => hBusy ⟨job, o, call, hAt⟩
    have hModify : s.workers.modify i (Worker.endCall behaviour) = s.workers := by
      refine modify_eq_self fun w hw => ?_
      cases w with
      | busy job o call => exact absurd hw (hIdle job o call)
      | _ => rfl
    exact .inl ⟨by rw [System.callEnd, hModify], hIdle⟩

/-- Where no worker is in a call, none ends. -/
theorem ends_eq_nil {workers : List Worker} {i : Nat}
    (h : ∀ job o call, workers[i]? ≠ some (.busy job o call)) :
    workers[i]?.toList.flatMap Worker.ends = [] := by
  cases hw : workers[i]? with
  | none => rfl
  | some w =>
    cases w with
    | busy job o call => exact absurd hw (h job o call)
    | _ => rfl

theorem callEnd_follows {h : History} {k : Nat} {active : Option Worker}
    (hs : h.system.Staffed k active) (i : Nat) (behaviour : Behaviour) :
    Follows h active (h.act (.callEnd i behaviour)) := by
  rcases callEnd_cases hs i behaviour with ⟨hSame, hIdle⟩ | ⟨job, o, call, rfl, hAt, hs'⟩
  · refine follows_rest hs ?_ ?_
    · rw [History.act, System.act, hSame]
    · simp [History.scene, History.act, History.submissions, History.outcomes, History.calls,
        System.act, hSame, ends_eq_nil hIdle]
  · refine ⟨k, some ((Worker.busy job o call).endCall behaviour), hs', ?_⟩
    have hTurn := endCall_turn (s := h.scene (some (.busy job o call))) rfl behaviour
    simpa [History.scene, History.act, History.submissions, History.outcomes, History.calls,
      System.act, System.callEnd, hAt] using hTurn

/-! ## Actions and runs -/

theorem act_follows {h : History} {k : Nat} {active : Option Worker}
    (hs : h.system.Staffed k active) (a : Action) : Follows h active (h.act a) := by
  cases a with
  | submit job => exact submit_follows hs job
  | workerStep i now => exact workerStep_follows hs i now
  | callEnd i behaviour => exact callEnd_follows hs i behaviour
  | arrival =>
    exact follows_rest hs rfl (by simp [History.scene, History.act, History.submissions,
      History.outcomes, History.calls, System.act, System.arrival])
  | waiterStep i =>
    exact follows_rest hs rfl (by simp [History.scene, History.act, History.submissions,
      History.outcomes, History.calls, System.act, System.waiterStep])

def Scene.start (limit : Nat) : Scene := ⟨.empty limit, none, [], [], []⟩

/-- **Runs are turns.** What holds of the first scene and is kept by every turn holds of the scene
of every reachable system. -/
theorem run_scene {limit : Nat} {P : Scene → Prop} (hStart : P (.start limit))
    (hTurn : ∀ s s', P s → Turn s s' → P s') (actions : List Action) :
    ∃ leaving active, (History.run limit actions).system.Staffed leaving active ∧
      P ((History.run limit actions).scene active) := by
  refine History.run_induction (P := fun h => ∃ leaving active,
    h.system.Staffed leaving active ∧ P (h.scene active)) ?_ ?_ actions
  · exact ⟨0, none, ⟨rfl, by simp, rfl⟩, hStart⟩
  · rintro h a ⟨k, active, hs, hP⟩
    obtain ⟨leaving, active', hs', ht⟩ := act_follows hs a
    exact ⟨leaving, active', hs', hTurn _ _ hP ht⟩

end SessionReplay
