import SessionReplay.Proofs.Queue.Turn
import Mathlib.Data.List.Forall2

/-!
# Which stages are called, and what the outcome tells of them

A recording that was not stored is not compiled, and one that was not compiled is neither executed
nor reported; but what was executed is reported whatever came of it. The outcome has an entry for
every call.

* `StageResults.course`: the calls that are made for a job, with what they give.
* `Answer.Entered`: the entry of an outcome that tells of a call.
* `Chronicle`: a history in which it is noted what each call gave.
* `Leads`: the calls of a job up to the next one; `Worker.Told`: the invariant of a worker.
* `Telling`, `act_telling`: what is noted in a turn, one case for each kind of note; `run_telling`:
  what such turns keep holds after every run.
* `run_keeps_policy`: the calls of every finished job are a course, and every course can be run.
-/

namespace SessionReplay

/-! ## The policy -/

/-- A stage call that returned. -/
structure Answer where
  call : Call
  result : Except Trouble call.Value

/-- What the stages give for a job. -/
structure StageResults where
  stored : Except Trouble String
  compiled : Except Trouble String
  executed : Except Trouble StageResult
  reported : Except Trouble StageResult

namespace StageResults

def behaviour (x : StageResults) : Behaviour := fun _ call =>
  match call with
  | .persist => .returned x.stored
  | .compile _ => .returned x.compiled
  | .execute _ => .returned x.executed
  | .report => .returned x.reported

/-- The calls that are made, each with the path that the call before it gave. -/
def course (x : StageResults) : List Answer :=
  ⟨.persist, x.stored⟩ ::
    match x.stored with
    | .error _ => []
    | .ok recording =>
      ⟨.compile recording, x.compiled⟩ ::
        match x.compiled with
        | .error _ => []
        | .ok script => [⟨.execute script, x.executed⟩, ⟨.report, x.reported⟩]

end StageResults

namespace Answer

/-- The result that a call returned, if it was one that returns a result and not a path. -/
def given? : Answer → Option StageResult
  | ⟨.execute _, .ok result⟩ | ⟨.report, .ok result⟩ => some result
  | _ => none

/-- The call returned a failure, or a result that is none of success. -/
def Failed (a : Answer) : Prop :=
  (∃ trouble, a.result = .error trouble) ∨ ∃ result, a.given? = some result ∧ result.ok = false

/-- What the entry of a call tells. -/
structure Entered (a : Answer) (entry : StageReport) : Prop where
  stage : entry.stage = a.call.stage
  failed : entry.result.ok = false ↔ a.Failed
  given : ∀ result, a.given? = some result → entry.result = result

end Answer

/-- A call makes one entry in the outcome of its job. -/
theorem proceed_entered (o : Outcome) (call : Call) (result : Except Trouble call.Value) :
    ∃ entry, Answer.Entered ⟨call, result⟩ entry ∧
      (call.proceed o result).1.stages = o.stages ++ [entry] := by
  cases call <;> cases result <;> refine ⟨_, ⟨rfl, ?_, ?_⟩, rfl⟩ <;>
    simp [Answer.Failed, Answer.given?, Call.resultOf, StageResult.success, StageResult.failure]

/-- The calls of a job that come before one of its calls. -/
inductive Leads : List Answer → Call → Prop where
  | persist : Leads [] .persist
  | compile (recording : String) : Leads [⟨.persist, .ok recording⟩] (.compile recording)
  | execute (recording script : String) :
    Leads [⟨.persist, .ok recording⟩, ⟨.compile recording, .ok script⟩] (.execute script)
  | report (recording script : String) (executed : Except Trouble StageResult) :
    Leads [⟨.persist, .ok recording⟩, ⟨.compile recording, .ok script⟩, ⟨.execute script, executed⟩]
      .report

theorem Leads.next {answers : List Answer} {call next : Call} {o o' : Outcome}
    {result : Except Trouble call.Value} (h : Leads answers call)
    (hProceed : call.proceed o result = (o', some next)) :
    Leads (answers ++ [⟨call, result⟩]) next := by
  cases h with
  | persist => cases result <;> cases hProceed; exact .compile _
  | compile recording => cases result <;> cases hProceed; exact .execute _ _
  | execute recording script => cases result <;> cases hProceed <;> exact .report _ _ _
  | report => cases result <;> cases hProceed

theorem Leads.complete {answers : List Answer} {call : Call} {o o' : Outcome}
    {result : Except Trouble call.Value} (h : Leads answers call)
    (hProceed : call.proceed o result = (o', none)) :
    ∃ x : StageResults, x.course = answers ++ [⟨call, result⟩] := by
  cases h with
  | persist =>
    cases result with
    | ok path => cases hProceed
    | error t => exact ⟨⟨.error t, .error t, .error t, .error t⟩, rfl⟩
  | compile recording =>
    cases result with
    | ok path => cases hProceed
    | error t => exact ⟨⟨.ok recording, .error t, .error t, .error t⟩, rfl⟩
  | execute => cases hProceed
  | report recording script executed => exact ⟨⟨.ok recording, .ok script, executed, result⟩, rfl⟩

/-! ## Chronicles -/

inductive Note where
  | began (job : Job) (call : Call)
  | answered (job : Job) (answer : Answer)
  | brokeDown (job : Job) (call : Call) (report : String)

namespace Note

def ofEnding (job : Job) (call : Call) : Ending call.Value → Note
  | .returned result => .answered job ⟨call, result⟩
  | .brokeDown report => .brokeDown job call report

/-- What is left of a note if it is not told how the call ended. -/
def event : Note → CallEvent
  | began job call => .began job call
  | answered job answer => .ended job answer.call
  | brokeDown job call _ => .ended job call

end Note

/-- Calls of a job one after the other. -/
def notesOf (job : Job) (answers : List Answer) : List Note :=
  answers.flatMap fun a => [.began job a.call, .answered job a]

theorem notesOf_append (job : Job) (answers : List Answer) (a : Answer) :
    notesOf job (answers ++ [a]) = notesOf job answers ++ [.began job a.call, .answered job a] := by
  simp [notesOf]

namespace Worker

/-- What is noted in the next step of a worker. -/
def opens : Worker → List Note
  | ready job _ call => [.began job call]
  | _ => []

/-- What is noted when the call of a worker ends. -/
def closes (behaviour : Behaviour) : Worker → List Note
  | busy job _ call => [.ofEnding job call (behaviour job call)]
  | _ => []

theorem event_opens (w : Worker) : w.opens.map Note.event = w.begins := by
  cases w <;> rfl

theorem event_closes (w : Worker) (behaviour : Behaviour) :
    (w.closes behaviour).map Note.event = w.ends := by
  cases w with
  | busy job o call => cases hEnding : behaviour job call <;> simp [closes, hEnding] <;> rfl
  | _ => rfl

end Worker

structure Chronicle where
  history : History
  notes : List Note := []

namespace Chronicle

def noted (s : System) : Action → List Note
  | .workerStep i _ => s.workers[i]?.toList.flatMap Worker.opens
  | .callEnd i behaviour => s.workers[i]?.toList.flatMap (Worker.closes behaviour)
  | _ => []

def act (c : Chronicle) (a : Action) : Chronicle where
  history := c.history.act a
  notes := c.notes ++ noted c.history.system a

def run (limit : Nat) (actions : List Action) : Chronicle :=
  actions.foldl act { history := .start limit }

theorem run_append (limit : Nat) (actions : List Action) (a : Action) :
    run limit (actions ++ [a]) = (run limit actions).act a := by
  simp [run, List.foldl_append]

theorem run_history (limit : Nat) (actions : List Action) :
    (run limit actions).history = History.run limit actions := by
  induction actions using List.reverseRecOn with
  | nil => rfl
  | append_singleton actions a ih => rw [run_append, History.run_append, act, ih]

theorem event_noted (s : System) (a : Action) :
    (noted s a).map Note.event = History.calls s a := by
  cases a <;>
    simp [noted, History.calls, List.map_flatMap, Worker.event_opens, Worker.event_closes]

theorem run_events (limit : Nat) (actions : List Action) :
    (run limit actions).notes.map Note.event = (History.run limit actions).events := by
  induction actions using List.reverseRecOn with
  | nil => rfl
  | append_singleton actions a ih =>
    rw [run_append, act, List.map_append, ih, event_noted, run_history, History.run_append]
    rfl

end Chronicle

/-! ## What is noted in a turn -/

/-- All that can become of a scene at once, with what is noted of it: nothing, unless a call begins
or ends. -/
inductive Telling (s : Scene) : Scene → List Note → Prop
  | quiet {s' : Scene} (hTurn : Turn s s') (hEvents : s'.events = s.events) : Telling s s' []
  | begins {job : Job} {o : Outcome} {call : Call} (hWorker : s.worker = some (.ready job o call)) :
    Telling s { s with
      queue := s.queue.showStage call.stage
      worker := some (.busy job o call)
      events := s.events ++ [.began job call] } [.began job call]
  | ends {job : Job} {o : Outcome} {call : Call} (behaviour : Behaviour)
    (hWorker : s.worker = some (.busy job o call)) :
    Telling s { s with
      worker := some ((Worker.busy job o call).endCall behaviour)
      events := s.events ++ [.ended job call] } [.ofEnding job call (behaviour job call)]

theorem Telling.turn {s s' : Scene} {new : List Note} (h : Telling s s' new) : Turn s s' := by
  cases h with
  | quiet hTurn _ => exact hTurn
  | begins hWorker => exact .callBegins hWorker
  | ends behaviour hWorker => exact endCall_turn hWorker behaviour

/-- A turn in which no call ends. -/
theorem telling_of_turn {s s' : Scene} {new : List Note} (hTurn : Turn s s')
    (hEvents : s'.events = s.events ++ new.map Note.event) (hShort : new.length ≤ 1)
    (hBegan : ∀ n ∈ new, ∃ job call, n = .began job call) : Telling s s' new := by
  cases new with
  | nil => exact .quiet hTurn (by rw [hEvents, List.map_nil, List.append_nil])
  | cons n rest =>
    obtain rfl : rest = [] := List.length_eq_zero_iff.1 (by simpa using hShort)
    obtain ⟨job, call, rfl⟩ := hBegan n (by simp)
    cases hTurn with
    | callBegins hWorker =>
      cases List.append_cancel_left hEvents
      exact .begins hWorker
    | callEnds | lastCallEnds | breakDown => cases List.append_cancel_left hEvents
    | _ => simp at hEvents

/-- Every action is a turn, and what is noted of it is what the chronicle notes. -/
theorem act_telling {c : Chronicle} {k : Nat} {active : Option Worker}
    (hs : c.history.system.Staffed k active) (a : Action) :
    ∃ leaving active', (c.act a).history.system.Staffed leaving active' ∧
      Telling (c.history.scene active) ((c.act a).history.scene active')
        (Chronicle.noted c.history.system a) := by
  have hQuiet (hShort : (Chronicle.noted c.history.system a).length ≤ 1)
      (hBegan : ∀ n ∈ Chronicle.noted c.history.system a, ∃ job call, n = .began job call) :
      ∃ leaving active', (c.act a).history.system.Staffed leaving active' ∧
        Telling (c.history.scene active) ((c.act a).history.scene active')
          (Chronicle.noted c.history.system a) := by
    obtain ⟨k', active', hs', hTurn⟩ := act_follows hs a
    refine ⟨k', active', hs', telling_of_turn hTurn ?_ hShort hBegan⟩
    rw [Chronicle.event_noted]
    rfl
  cases a with
  | callEnd i behaviour =>
    rcases callEnd_cases hs i behaviour with ⟨hSame, hIdle⟩ | ⟨job, o, call, rfl, hAt, hs'⟩
    · have hNoted : Chronicle.noted c.history.system (.callEnd i behaviour) = [] := by
        rw [Chronicle.noted]
        cases hw : c.history.system.workers[i]? with
        | none => rfl
        | some w =>
          cases w with
          | busy job o call => exact absurd hw (hIdle job o call)
          | _ => rfl
      exact hQuiet (by simp [hNoted]) (by simp [hNoted])
    · refine ⟨k, _, hs', ?_⟩
      have hEnds : Telling (c.history.scene (some (.busy job o call))) _ _ := .ends behaviour rfl
      simpa [History.scene, Chronicle.act, Chronicle.noted, History.act, History.submissions,
        History.outcomes, History.calls, System.act, System.callEnd, hAt, Worker.ends,
        Worker.closes] using hEnds
  | workerStep i now =>
    rw [Chronicle.noted] at hQuiet ⊢
    cases hw : c.history.system.workers[i]? with
    | none => simpa [hw] using hQuiet
    | some w =>
      rw [hw] at hQuiet
      cases w <;> simpa [Worker.opens] using hQuiet
  | submit | arrival | waiterStep =>
    exact hQuiet (by simp [Chronicle.noted]) (by simp [Chronicle.noted])

/-! ## The invariant -/

/-- What is noted of a job that is finished: its course, unless one of its calls broke down. -/
def Recounts (p : Job × Outcome) (notes : List Note) : Prop :=
  (∃ x : StageResults, notes = notesOf p.1 x.course ∧
    List.Forall₂ Answer.Entered x.course p.2.stages) ∨
  ∃ answers call report, Leads answers call ∧
    notes = notesOf p.1 answers ++ [.began p.1 call, .brokeDown p.1 call report]

/-- What is noted of the job that a worker has in hand. -/
def Worker.Told : Worker → List Note → Prop
  | .free, notes | .leaving, notes => notes = []
  | .ready job o call, notes =>
    ∃ answers, Leads answers call ∧ List.Forall₂ Answer.Entered answers o.stages ∧
      notes = notesOf job answers
  | .busy job o call, notes =>
    ∃ answers, Leads answers call ∧ List.Forall₂ Answer.Entered answers o.stages ∧
      notes = notesOf job answers ++ [.began job call]
  | .complete job o, notes =>
    ∃ x : StageResults, notes = notesOf job x.course ∧
      List.Forall₂ Answer.Entered x.course o.stages
  | .aborted job report, notes =>
    ∃ answers call, Leads answers call ∧
      notes = notesOf job answers ++ [.began job call, .brokeDown job call report]
  | .finished job o, notes => Recounts (job, o) notes

/-- The notes are those of the finished jobs, and then those of the job in hand. -/
def Scene.Told (s : Scene) (notes : List Note) : Prop :=
  ∃ blocks current, notes = blocks.flatten ++ current ∧
    List.Forall₂ Recounts s.finished blocks ∧ (s.worker.getD .free).Told current

/-- The end of a call is told of the worker that was in it. -/
theorem endCall_told {job : Job} {o : Outcome} {call : Call} {notes : List Note}
    (h : (Worker.busy job o call).Told notes) (behaviour : Behaviour) :
    ((Worker.busy job o call).endCall behaviour).Told
      (notes ++ (Worker.busy job o call).closes behaviour) := by
  obtain ⟨answers, hLeads, hEntered, rfl⟩ := h
  cases hEnding : behaviour job call with
  | brokeDown report =>
    simp only [Worker.endCall, Worker.closes, hEnding]
    exact ⟨answers, call, hLeads, by simp [Note.ofEnding]⟩
  | returned result =>
    have hNotes : notesOf job answers ++ [.began job call] ++ [.answered job ⟨call, result⟩] =
        notesOf job (answers ++ [⟨call, result⟩]) := by
      rw [notesOf_append, List.append_assoc]
      rfl
    obtain ⟨entry, hEntry, hStages⟩ := proceed_entered o call result
    have hAll : List.Forall₂ Answer.Entered (answers ++ [⟨call, result⟩])
        (call.proceed o result).1.stages :=
      hStages ▸ List.rel_append hEntered (.cons hEntry .nil)
    rcases hProceed : call.proceed o result with ⟨o', _ | next⟩
    all_goals
      rw [hProceed] at hAll
      simp only [Worker.endCall, Worker.closes, hEnding, hProceed, Note.ofEnding, hNotes]
    · obtain ⟨x, hCourse⟩ := hLeads.complete hProceed
      exact ⟨x, by rw [hCourse], hCourse ▸ hAll⟩
    · exact ⟨_, hLeads.next hProceed, hAll, rfl⟩

/-- What is told of a worker goes on with the notes of a turn, unless the outcome of its job is
recorded. -/
theorem telling_cases {s s' : Scene} {current new : List Note} (hTelling : Telling s s' new)
    (hTold : (s.worker.getD .free).Told current) :
    (s'.finished = s.finished ∧ (s'.worker.getD .free).Told (current ++ new)) ∨
    ∃ job o, s.worker = some (.finished job o) ∧ s'.worker = some .free ∧
      s'.finished = s.finished ++ [(job, o)] ∧ new = [] := by
  cases hTelling with
  | begins hWorker =>
    rw [hWorker] at hTold
    obtain ⟨answers, hLeads, hEntered, rfl⟩ := hTold
    exact .inl ⟨rfl, answers, hLeads, hEntered, rfl⟩
  | ends behaviour hWorker =>
    rw [hWorker] at hTold
    exact .inl ⟨rfl, endCall_told hTold behaviour⟩
  | quiet hTurn hEvents =>
    rw [List.append_nil]
    cases hTurn with
    | rest => exact .inl ⟨rfl, hTold⟩
    | submit job =>
      refine .inl ⟨rfl, ?_⟩
      cases hWorker : s.worker <;> rw [hWorker] at hTold <;> exact hTold
    | take now hWorker hWaiting =>
      rw [hWorker] at hTold
      obtain rfl : current = [] := hTold
      exact .inl ⟨rfl, [], .persist, .nil, rfl⟩
    | leave hWorker hWaiting =>
      rw [hWorker] at hTold
      exact .inl ⟨rfl, hTold⟩
    | callBegins | callEnds | lastCallEnds | breakDown => simp at hEvents
    | complete now hWorker =>
      rw [hWorker] at hTold
      exact .inl ⟨rfl, .inl hTold⟩
    | abort now hWorker =>
      rw [hWorker] at hTold
      obtain ⟨answers, call, hLeads, hNotes⟩ := hTold
      exact .inl ⟨rfl, .inr ⟨answers, call, _, hLeads, hNotes⟩⟩
    | record hWorker => exact .inr ⟨_, _, hWorker, rfl, rfl, rfl⟩

theorem telling_told {s s' : Scene} {notes new : List Note} (h : s.Told notes)
    (hTelling : Telling s s' new) : s'.Told (notes ++ new) := by
  obtain ⟨blocks, current, rfl, hBlocks, hTold⟩ := h
  rcases telling_cases hTelling hTold with
    ⟨hFinished, hTold'⟩ | ⟨job, o, hWorker, hWorker', hFinished, rfl⟩
  · exact ⟨blocks, current ++ new, List.append_assoc .., hFinished ▸ hBlocks, hTold'⟩
  · rw [hWorker] at hTold
    refine ⟨blocks ++ [current], [], by simp, ?_, by rw [hWorker']; rfl⟩
    rw [hFinished]
    exact List.rel_append hBlocks (.cons hTold .nil)

/-- **Runs are turns that are told of.** What holds of the first scene and its empty notes and is
kept by every turn holds of the scene of every reachable system. -/
theorem run_telling {limit : Nat} {P : Scene → List Note → Prop} (hStart : P (.start limit) [])
    (hTelling : ∀ s s' notes new, P s notes → Telling s s' new → P s' (notes ++ new))
    (actions : List Action) :
    let c := Chronicle.run limit actions
    ∃ leaving active, c.history.system.Staffed leaving active ∧
      P (c.history.scene active) c.notes := by
  induction actions using List.reverseRecOn with
  | nil => exact ⟨0, none, ⟨rfl, by simp, rfl⟩, hStart⟩
  | append_singleton actions a ih =>
    obtain ⟨k, active, hs, hP⟩ := ih
    obtain ⟨k', active', hs', hTold⟩ := act_telling hs a
    rw [Chronicle.run_append]
    exact ⟨k', active', hs', hTelling _ _ _ _ hP hTold⟩

/-- The chronicle of a run tells of the worker that stays and of all jobs that are finished. -/
def Chronicle.Told (c : Chronicle) : Prop :=
  ∃ leaving active, c.history.system.Staffed leaving active ∧
    (c.history.scene active).Told c.notes

theorem run_told (limit : Nat) (actions : List Action) : (Chronicle.run limit actions).Told :=
  run_telling ⟨[], [], rfl, .nil, rfl⟩ (fun _ _ _ _ => telling_told) actions

/-! ## Every course can be run -/

namespace StageResults

/-- The steps in which a worker runs its job if the stages give these results. -/
def actions (x : StageResults) (i : Nat) (now : Instant) : List Action :=
  (x.course.flatMap fun _ => [.workerStep i now, .callEnd i x.behaviour]) ++
    [.workerStep i now, .workerStep i now]

end StageResults

/-- What a worker is about to do behind a call. -/
def Worker.behind (job : Job) (o : Outcome) : Option Call → Worker
  | some next => .ready job o next
  | none => .complete job o

/-- From one chronicle to another a worker has had these answers for its job. -/
structure Chronicle.Reaches (c : Chronicle) (i : Nat) (job : Job) (answers : List Answer)
    (o : Outcome) (next : Option Call) (c' : Chronicle) : Prop where
  worker : c'.history.system.workers[i]? = some (.behind job o next)
  notes : c'.notes = c.notes ++ notesOf job answers
  finished : c'.history.finished = c.history.finished
  entered : List.Forall₂ Answer.Entered answers o.stages

namespace Chronicle.Reaches

variable {c c' : Chronicle} {i : Nat} {job : Job} {answers : List Answer} {o : Outcome}

/-- One call more. -/
theorem answer {call : Call} {next : Option Call} (h : Reaches c i job answers o (some call) c')
    (now : Instant) {x : StageResults} {result : Except Trouble call.Value}
    (hResult : x.behaviour job call = .returned result)
    (hNext : (call.proceed o result).2 = next) :
    Reaches c i job (answers ++ [⟨call, result⟩]) (call.proceed o result).1 next
      ([.workerStep i now, .callEnd i x.behaviour].foldl act c') := by
  have hAt : c'.history.system.workers[i]? = some (.ready job o call) := h.worker
  have hLength : i < c'.history.system.workers.length := (List.getElem?_eq_some_iff.mp hAt).1
  have hStep : c'.history.system.workerStep i now =
      { c'.history.system with
        queue := c'.history.system.queue.showStage call.stage
        workers := c'.history.system.workers.set i (.busy job o call) } := by
    simp only [System.workerStep, hAt, Worker.step]
  have hBusy : (c'.history.system.workerStep i now).workers[i]? = some (.busy job o call) := by
    simp [hStep, hLength]
  obtain ⟨entry, hEntry, hStages⟩ := proceed_entered o call result
  refine ⟨?_, ?_, ?_, ?_⟩
  · have hEnd : (Worker.busy job o call).endCall x.behaviour =
        .behind job (call.proceed o result).1 next := by
      rw [← hNext]
      rcases hProceed : call.proceed o result with ⟨o', _ | next⟩ <;>
        simp [Worker.endCall, Worker.behind, hResult, hProceed]
    simp only [List.foldl_cons, List.foldl_nil, act, History.act, System.act, System.callEnd,
      List.getElem?_modify_eq, hBusy, Option.map_eq_map, Option.map_some, hEnd]
  · simp [act, History.act, System.act, noted, hAt, hBusy, Worker.opens, Worker.closes, hResult,
      Note.ofEnding, h.notes, notesOf_append]
  · simp [act, History.act, History.outcomes, hAt, Worker.records, h.finished]
  · rw [hStages]
    exact List.rel_append h.entered (.cons hEntry .nil)

/-- The record of the outcome, behind the last call. -/
theorem record (h : Reaches c i job answers o none c') (now : Instant) :
    let c'' := [.workerStep i now, .workerStep i now].foldl act c'
    c''.notes = c.notes ++ notesOf job answers ∧
      c''.history.finished = c.history.finished ++ [(job, o.finish now)] := by
  have hAt : c'.history.system.workers[i]? = some (.complete job o) := h.worker
  have hLength : i < c'.history.system.workers.length := (List.getElem?_eq_some_iff.mp hAt).1
  have hFinished : (c'.history.system.workerStep i now).workers[i]? =
      some (.finished job (o.finish now)) := by
    simp only [System.workerStep, hAt, Worker.step, List.getElem?_set_self hLength]
  constructor
  · simp [act, History.act, System.act, noted, hAt, hFinished, Worker.opens, h.notes]
  · simp [act, History.act, System.act, History.outcomes, hAt, hFinished, Worker.records,
      h.finished]

/-- A worker that is ready for the first call can be led through every course. -/
theorem course (h : Reaches c i job [] o (some .persist) c') (x : StageResults) (now : Instant) :
    ∃ o', Reaches c i job x.course o' none
      ((x.course.flatMap fun _ => [.workerStep i now, .callEnd i x.behaviour]).foldl act c') := by
  obtain ⟨stored, compiled, executed, reported⟩ := x
  cases stored with
  | error t => exact ⟨_, h.answer now rfl rfl⟩
  | ok recording =>
    have hStored := h.answer (x := ⟨.ok recording, compiled, executed, reported⟩) now rfl rfl
    cases compiled with
    | error t => exact ⟨_, hStored.answer now rfl rfl⟩
    | ok script =>
      have hCompiled := hStored.answer (x := ⟨.ok recording, .ok script, executed, reported⟩)
        now rfl rfl
      exact ⟨_, (hCompiled.answer now rfl rfl).answer now rfl rfl⟩

end Chronicle.Reaches

/-! ## Every run -/

/-- **The policy of stages.** In every run, what is noted of a finished job is the course of some
stage results, unless a call broke down: the recording is stored; if that gave a path, it is
compiled from there; if that gave a script, the script is executed and then reported. The outcome
has one entry for each of these calls, in their order, which tells whether the call failed and
keeps a result that was given. And whatever the stages of a job give, its worker runs that
course to its end and records such an outcome. -/
theorem run_keeps_policy (limit : Nat) (actions : List Action) :
    let c := Chronicle.run limit actions
    c.history = History.run limit actions ∧
    c.notes.map Note.event = c.history.events ∧
    (∃ blocks current, c.notes = blocks.flatten ++ current ∧
      List.Forall₂ Recounts c.history.finished blocks) ∧
    ∀ (i : Nat) (job : Job) (start now : Instant) (x : StageResults),
      c.history.system.workers[i]? = some (.ready job (Outcome.start job start) .persist) →
      let c' := (x.actions i now).foldl Chronicle.act c
      ∃ o, c'.history.finished = c.history.finished ++ [(job, o)] ∧
        c'.notes = c.notes ++ notesOf job x.course ∧
        List.Forall₂ Answer.Entered x.course o.stages := by
  intro c
  obtain ⟨leaving, active, -, blocks, current, hNotes, hBlocks, -⟩ := run_told limit actions
  refine ⟨Chronicle.run_history limit actions, ?_, ⟨blocks, current, hNotes, hBlocks⟩, ?_⟩
  · rw [Chronicle.run_events, Chronicle.run_history]
  · intro i job start now x hWorker
    have hStart : c.Reaches i job [] (Outcome.start job start) (some .persist) c :=
      ⟨hWorker, (List.append_nil _).symm, rfl, .nil⟩
    obtain ⟨o, hReaches⟩ := hStart.course x now
    obtain ⟨hTold, hFinished⟩ := hReaches.record now
    rw [StageResults.actions, List.foldl_append]
    exact ⟨o.finish now, hFinished, hTold, hReaches.entered⟩

/-- A script that could not be executed is reported none the less. -/
theorem run_keeps_policy_unexecuted :
    let job : Job := ⟨⟨0⟩, "login", "run", .null, ⟨0, 0⟩⟩
    let x : StageResults :=
      ⟨.ok "login.json", .ok "login.cy.js", .error ⟨"no runner", []⟩, .ok (.success "sent")⟩
    let c := Chronicle.run 5 [.submit job, .workerStep 0 ⟨1, 0⟩]
    c.history.system.workers[0]? = some (.ready job (Outcome.start job ⟨1, 0⟩) .persist) ∧
      ∃ o, ((x.actions 0 ⟨2, 0⟩).foldl Chronicle.act c).history.finished = [(job, o)] ∧
        List.Forall₂ Answer.Entered
          [⟨.persist, .ok "login.json"⟩, ⟨.compile "login.json", .ok "login.cy.js"⟩,
            ⟨.execute "login.cy.js", .error ⟨"no runner", []⟩⟩, ⟨.report, .ok (.success "sent")⟩]
          o.stages := by
  intro job x c
  obtain ⟨-, -, -, hCourse⟩ := run_keeps_policy 5 [.submit job, .workerStep 0 ⟨1, 0⟩]
  obtain ⟨o, hFinished, -, hEntered⟩ := hCourse 0 job ⟨1, 0⟩ ⟨2, 0⟩ x rfl
  exact ⟨rfl, o, hFinished, hEntered⟩

end SessionReplay
