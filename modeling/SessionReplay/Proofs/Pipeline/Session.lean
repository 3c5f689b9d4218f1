import SessionReplay.Pipeline.Run
import SessionReplay.Proofs.Queue.Turn

/-!
# Sessions on a pipeline

A system whose workers make their calls on a pipeline, one disk for all of them. Between two calls
anything may happen in the system; the programs that a call starts, and the clock and the network
that it sees, may be others each time.

* `Session`: a system, the disk, and the calls that were made, each with the disk that it saw.
* `Session.run`: what a session comes to after some steps.
* `Session.run_drain`: draining a system is a session.
* `Worker.call?`: the call that a worker is about to make or in; `System.Staffed.act_call?` and
  `Worker.call?_endCall` say where it comes from.
-/

namespace SessionReplay

/-- A stage call and the disk that it was made on. -/
structure MadeCall where
  job : Job
  call : Call
  disk : Disk

def Action.isCallEnd : Action → Bool
  | .callEnd .. => true
  | _ => false

structure Session where
  system : System
  disk : Disk
  made : List MadeCall := []

namespace Session

inductive Step where
  /-- Anything that happens in the system but the end of a call. -/
  | action (a : Action) (hOpen : a.isCallEnd = false := by rfl)
  /-- The call that a worker is in is made, on a host whose disk is that of the session. -/
  | call (worker : Nat) (programs : Programs) (host : Host)

/-- A call that nobody is in changes nothing. -/
def step (p : Pipeline) (s : Session) : Step → Session
  | .action a _ => { s with system := s.system.act a }
  | .call i programs host =>
    let h := { host with disk := s.disk }
    match s.system.workers[i]? with
    | some (.busy job _ c) =>
      { system := s.system.callEnd i (p.behaviour programs h)
        disk := (p.call programs job h c).2.disk
        made := s.made ++ [⟨job, c, s.disk⟩] }
    | _ => s

def start (limit : Nat) (disk : Disk) : Session := { system := .empty limit, disk }

def run (p : Pipeline) (s : Session) (steps : List Step) : Session := steps.foldl (step p) s

theorem run_append (p : Pipeline) (s : Session) (steps more : List Step) :
    run p s (steps ++ more) = run p (run p s steps) more := by
  simp [run, List.foldl_append]

section Step

variable {p : Pipeline} {s : Session} {i : Nat} {programs : Programs} {host : Host}

theorem step_call {job : Job} {o : Outcome} {c : Call}
    (h : s.system.workers[i]? = some (.busy job o c)) :
    s.step p (.call i programs host) =
      { system := s.system.callEnd i (p.behaviour programs { host with disk := s.disk })
        disk := (p.call programs job { host with disk := s.disk } c).2.disk
        made := s.made ++ [⟨job, c, s.disk⟩] } := by
  simp only [step, h]

theorem step_idle (h : ∀ job o c, s.system.workers[i]? ≠ some (.busy job o c)) :
    s.step p (.call i programs host) = s := by
  cases hAt : s.system.workers[i]? with
  | none => simp only [step, hAt]
  | some w =>
    cases w with
    | busy job o c => exact absurd hAt (h job o c)
    | _ => simp only [step, hAt]

/-- No call that was made is forgotten. -/
theorem mem_made_step {a : Step} {m : MadeCall} (h : m ∈ s.made) : m ∈ (s.step p a).made := by
  cases a with
  | action => exact h
  | call i programs host =>
    by_cases hBusy : ∃ job o c, s.system.workers[i]? = some (.busy job o c)
    · obtain ⟨job, o, c, hAt⟩ := hBusy
      rw [step_call hAt]
      exact List.mem_append_left _ h
    · simp only [not_exists] at hBusy
      rw [step_idle hBusy]
      exact h

end Step

/-! ## Draining is a session -/

theorem step_workerStep (p : Pipeline) (programs : Programs) (s : System) (h : Host)
    (made : List MadeCall) : ∃ a made', step p ⟨s, h.disk, made⟩ a =
      ⟨(p.workerStep programs s h).1, (p.workerStep programs s h).2.disk, made'⟩ := by
  have hHead : s.workers.head? = s.workers[0]? := List.head?_eq_getElem?
  by_cases hBusy : ∃ job o c, s.workers[0]? = some (.busy job o c)
  · obtain ⟨job, o, c, hAt⟩ := hBusy
    refine ⟨.call 0 programs h, made ++ [⟨job, c, h.disk⟩], ?_⟩
    simp only [step, Pipeline.workerStep, hHead, hAt]
  · refine ⟨.action (.workerStep 0 h.now.1), made, ?_⟩
    have hIdle : p.workerStep programs s h = (s.workerStep 0 h.now.1, h.now.2) := by
      unfold Pipeline.workerStep
      rw [hHead]
      split
      · next job o c hAt => exact absurd ⟨job, o, c, hAt⟩ hBusy
      · rfl
    rw [hIdle]
    rfl

/-- **Draining a system is a session** of steps of its worker. -/
theorem run_drain (p : Pipeline) (programs : Programs) (n : Nat) (s : System) (h : Host)
    (made : List MadeCall) : ∃ steps made', run p ⟨s, h.disk, made⟩ steps =
      ⟨(p.drainFrom programs n s h).1, (p.drainFrom programs n s h).2.disk, made'⟩ := by
  induction n generalizing s h made with
  | zero => exact ⟨[], made, rfl⟩
  | succ n ih =>
    rw [Pipeline.drainFrom]
    split
    · exact ⟨[], made, rfl⟩
    · obtain ⟨a, made', hStep⟩ := step_workerStep p programs s h made
      obtain ⟨steps, made'', hSteps⟩ :=
        ih (p.workerStep programs s h).1 (p.workerStep programs s h).2 made'
      refine ⟨a :: steps, made'', ?_⟩
      rw [run, List.foldl_cons, hStep]
      exact hSteps

end Session

/-! ## The call of a worker -/

/-- The call that a worker is about to make, or is in. -/
def Worker.call? : Worker → Option (Job × Call)
  | .ready job _ call | .busy job _ call => some (job, call)
  | _ => none

/-- The job of a scene and its call. -/
def Scene.call? (s : Scene) : Option (Job × Call) := s.worker.bind Worker.call?

/-- Where no call ends, the call is the one there was or the first one of a job. -/
theorem turn_call? {s s' : Scene} (hTurn : Turn s s') {job : Job} {call : Call}
    (h : s'.call? = some (job, call)) :
    s.call? = some (job, call) ∨ call = .persist ∨
      ∃ job call, s'.events = s.events ++ [.ended job call] := by
  cases hTurn with
  | rest => exact .inl h
  | submit =>
    cases hWorker : s.worker with
    | none => simp [Scene.call?, hWorker, Worker.call?] at h
    | some w => exact .inl (by simpa [Scene.call?, hWorker] using h)
  | take => exact .inr (.inl (Prod.mk.inj (Option.some.inj h)).2.symm)
  | callBegins hWorker => exact .inl (by rw [Scene.call?, hWorker]; exact h)
  | callEnds | lastCallEnds | breakDown => exact .inr (.inr ⟨_, _, rfl⟩)
  | leave | complete | abort | record => simp [Scene.call?, Worker.call?] at h

/-- No call ends in an action that is not the end of one. -/
theorem not_ended_of_open {s : System} {a : Action} (hOpen : a.isCallEnd = false) {job : Job}
    {call : Call} : CallEvent.ended job call ∉ History.calls s a := by
  cases a with
  | callEnd => contradiction
  | workerStep i now =>
    intro hMem
    obtain ⟨w, -, hEvent⟩ := List.mem_flatMap.1 hMem
    cases w <;> simp [Worker.begins] at hEvent
  | _ => simp [History.calls]

/-- What a worker is about to call after an action that ends no call: what it was about to call
before, or to persist a job. -/
theorem System.Staffed.act_call? {s : System} {k : Nat} {active : Option Worker}
    (hs : s.Staffed k active) {a : Action} (hOpen : a.isCallEnd = false) :
    ∃ k' active', (s.act a).Staffed k' active' ∧ ∀ job call,
      active'.bind Worker.call? = some (job, call) →
        active.bind Worker.call? = some (job, call) ∨ call = .persist := by
  obtain ⟨k', active', hs', hTurn⟩ := act_follows (h := ⟨s, [], [], []⟩) hs a
  refine ⟨k', active', hs', fun job call hCall => ?_⟩
  rcases turn_call? hTurn hCall with hSame | hPersist | ⟨job', call', hEvents⟩
  · exact .inl hSame
  · exact .inr hPersist
  · have hEnded : CallEvent.ended job' call' ∈ History.calls s a := by
      have hCalls : History.calls s a = [.ended job' call'] := hEvents
      rw [hCalls]
      exact List.mem_singleton_self _
    exact absurd hEnded (not_ended_of_open hOpen)

/-- The call that comes next, after one that came to an end. -/
theorem Worker.call?_endCall {job job' : Job} {o : Outcome} {call next : Call}
    {behaviour : Behaviour}
    (h : ((Worker.busy job o call).endCall behaviour).call? = some (job', next)) :
    job' = job ∧ ∃ result o', behaviour job call = .returned result ∧
      call.proceed o result = (o', some next) := by
  rw [Worker.endCall] at h
  split at h
  · contradiction
  · next result hEnding =>
    split at h
    · next o' next' hProceed =>
      obtain ⟨rfl, rfl⟩ := Prod.mk.inj (Option.some.inj h)
      exact ⟨rfl, result, o', hEnding, hProceed⟩
    · contradiction

end SessionReplay
