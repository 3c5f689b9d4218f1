import SessionReplay.Proofs.Queue.Policy
import SessionReplay.Proofs.Queue.Showing

/-!
# What an outcome recalls of a job that was aborted

A call that breaks down takes all that was recorded of its job with it. The outcome that is made
for the job afterwards is made from the job itself and from the stage that is shown. The stage is
the right one, but of the calls that had returned before nothing is left.

* `Outcome.RanAsBegun`: the stages that are said to have run are those of which a call was begun.
* `Outcome.TellsAll`: the outcome has the calls that returned, and a failure for the one that did
  not.
* `Blames`, `Worker.Blames`: the outcome of an aborted job has the stage of the call that broke
  down; `telling_blames` says that every turn keeps it.
* `run_recalls`: the outcome of an aborted job tells of all its calls exactly if the first one broke
  down.
-/

namespace SessionReplay

/-! ## Stages that were begun and stages that are told of -/

/-- The stages of which a call was begun. -/
def stagesBegun (notes : List Note) : List Stage :=
  notes.filterMap fun
    | .began _ call => some call.stage
    | _ => none

theorem stagesBegun_append (notes more : List Note) :
    stagesBegun (notes ++ more) = stagesBegun notes ++ stagesBegun more :=
  List.filterMap_append ..

theorem stagesBegun_notesOf (job : Job) (answers : List Answer) :
    stagesBegun (notesOf job answers) = answers.map (·.call.stage) := by
  induction answers using List.reverseRecOn with
  | nil => rfl
  | append_singleton answers a ih =>
    rw [notesOf_append, stagesBegun_append, ih, List.map_append]
    rfl

theorem not_brokeDown_mem_notesOf (job job' : Job) (answers : List Answer) (call : Call)
    (report : String) : .brokeDown job' call report ∉ notesOf job answers := by
  simp [notesOf]

namespace Outcome

/-- The stages that are said to have run are those of which a call was begun. -/
def RanAsBegun (o : Outcome) (notes : List Note) : Prop :=
  ∀ stage, o.ran stage = true ↔ stage ∈ stagesBegun notes

/-- The outcome has an entry for each call that returned, and behind them a failure at the stage of
the call that did not. -/
def TellsAll (o : Outcome) (answers : List Answer) (call : Call) : Prop :=
  ∃ entries last, o.stages = entries ++ [last] ∧ List.Forall₂ Answer.Entered answers entries ∧
    last.stage = call.stage ∧ last.result.ok = false

theorem ran_iff (o : Outcome) (stage : Stage) :
    o.ran stage = true ↔ stage ∈ o.stages.map (·.stage) := by
  simp [ran]

theorem ranAsBegun_of_entered {o : Outcome} {answers : List Answer}
    (h : List.Forall₂ Answer.Entered answers o.stages) (job : Job) :
    o.RanAsBegun (notesOf job answers) := by
  have hStages : o.stages.map (·.stage) = answers.map (·.call.stage) := by
    refine List.forall₂_eq_eq_eq ▸ ?_
    rw [List.forall₂_map_left_iff, List.forall₂_map_right_iff]
    exact h.flip.imp fun _ _ hEntered => hEntered.stage
  intro stage
  rw [ran_iff, hStages, stagesBegun_notesOf]

end Outcome

/-! ## The outcome of an aborted job -/

section Aborted

variable {answers : List Answer} {call : Call}

theorem abortedOutcome_stages (job : Job) (stage : Stage) (report : String) (now : Instant) :
    (Worker.abortedOutcome job stage report now).stages =
      [⟨stage, .failure ("Job aborted: " ++ report)⟩] := rfl

/-- Behind the first call of a job there is always one that returned, which stored the
recording. -/
theorem Leads.persist_or_stored (h : Leads answers call) :
    (answers = [] ∧ call = .persist) ∨
      call.stage ≠ .persisting ∧ ∃ recording rest, answers = ⟨.persist, .ok recording⟩ :: rest := by
  cases h with
  | persist => exact .inl ⟨rfl, rfl⟩
  | compile recording => exact .inr ⟨by simp [Call.stage], recording, _, rfl⟩
  | execute recording script => exact .inr ⟨by simp [Call.stage], recording, _, rfl⟩
  | report recording script executed => exact .inr ⟨by simp [Call.stage], recording, _, rfl⟩

/-- All calls are told of if there are none but the one that broke down. -/
theorem abortedOutcome_tellsAll_iff (h : Leads answers call) (job : Job) (report : String)
    (now : Instant) :
    (Worker.abortedOutcome job call.stage report now).TellsAll answers call ↔ call = .persist := by
  rcases h.persist_or_stored with ⟨rfl, rfl⟩ | ⟨hStage, recording, rest, rfl⟩
  · exact iff_of_true ⟨[], _, abortedOutcome_stages .., .nil, rfl, rfl⟩ rfl
  · refine iff_of_false ?_ (fun hCall => hStage (hCall ▸ rfl))
    rintro ⟨entries, last, hStages, hEntered, -⟩
    have hLength := congrArg List.length hStages
    have hAnswers := hEntered.length_eq
    simp only [abortedOutcome_stages, List.length_append, List.length_cons, List.length_nil]
      at hLength hAnswers
    omega

theorem abortedOutcome_ranAsBegun_iff (h : Leads answers call) (job : Job) (report : String)
    (now : Instant) :
    (Worker.abortedOutcome job call.stage report now).RanAsBegun
      (notesOf job answers ++ [.began job call, .brokeDown job call report]) ↔ call = .persist := by
  have hBegun : stagesBegun (notesOf job answers ++ [.began job call, .brokeDown job call report]) =
      answers.map (·.call.stage) ++ [call.stage] := by
    rw [stagesBegun_append, stagesBegun_notesOf]
    rfl
  have hRan (stage : Stage) :
      (Worker.abortedOutcome job call.stage report now).ran stage = true ↔ stage = call.stage := by
    rw [Outcome.ran_iff, abortedOutcome_stages, List.map_singleton, List.mem_singleton]
  simp only [Outcome.RanAsBegun, hBegun, hRan]
  rcases h.persist_or_stored with ⟨rfl, rfl⟩ | ⟨hStage, recording, rest, rfl⟩
  · simp
  · refine iff_of_false (fun hAll => ?_) (fun hCall => hStage (hCall ▸ rfl))
    exact hStage ((hAll .persisting).2 (by simp [Call.stage])).symm

end Aborted

/-! ## The stage of a breakdown -/

/-- If a call broke down, the outcome was made for its stage. -/
def Blames (p : Job × Outcome) (notes : List Note) : Prop :=
  ∀ job call report, .brokeDown job call report ∈ notes →
    ∃ now, p.2 = Worker.abortedOutcome p.1 call.stage report now

/-- While a worker has a breakdown in hand, the stage that is shown is that of the call that broke
down. -/
def Worker.Blames : Worker → Stage → List Note → Prop
  | .aborted _ report, shown, notes =>
    ∀ job call report', .brokeDown job call report' ∈ notes → report' = report ∧ call.stage = shown
  | .finished job o, _, notes => SessionReplay.Blames (job, o) notes
  | _, _, _ => True

/-- The stage that is shown during a call is that of the call. -/
theorem shownStage_of_busy {s : Scene} (hOrderly : Orderly s) (hFitting : s.Fitting) {job : Job}
    {o : Outcome} {call : Call} (hWorker : s.worker = some (.busy job o call)) :
    s.queue.shownStage = call.stage := by
  have hShown := hOrderly.shown
  rw [Scene.current, hWorker] at hShown
  obtain ⟨r, hSlot, -⟩ := Option.map_eq_some_iff.1 hShown
  have hStage : r.stage = call.stage := hFitting _ hWorker r hSlot
  rw [JobQueue.shownStage, hSlot, ← hStage]
  rfl

theorem telling_blames {s s' : Scene} {current new : List Note} (hOrderly : Orderly s)
    (hFitting : s.Fitting) (hTold : (s.worker.getD .free).Told current)
    (h : (s.worker.getD .free).Blames s.queue.shownStage current) (hTelling : Telling s s' new) :
    (s'.worker.getD .free).Blames s'.queue.shownStage (current ++ new) := by
  cases hTelling with
  | begins hWorker => trivial
  | @ends job o call behaviour hWorker =>
    rw [hWorker] at hTold
    obtain ⟨answers, -, -, rfl⟩ := hTold
    cases hEnding : behaviour job call with
    | brokeDown report =>
      simp only [Worker.endCall, hEnding, Option.getD_some]
      intro job' call' report' hMem
      obtain ⟨-, rfl, rfl⟩ : job' = job ∧ call' = call ∧ report' = report := by
        simpa [Note.ofEnding, not_brokeDown_mem_notesOf] using hMem
      exact ⟨rfl, (shownStage_of_busy hOrderly hFitting hWorker).symm⟩
    | returned result =>
      rcases hProceed : call.proceed o result with ⟨o', _ | next⟩ <;>
        simp [Worker.endCall, hEnding, hProceed, Worker.Blames]
  | quiet hTurn hEvents =>
    rw [List.append_nil]
    cases hTurn with
    | rest => exact h
    | submit job =>
      cases hWorker : s.worker with
      | none => trivial
      | some w =>
        rw [hWorker] at h
        exact h
    | callBegins | callEnds | lastCallEnds | breakDown => simp at hEvents
    | complete now hWorker =>
      rw [hWorker] at hTold
      obtain ⟨x, rfl, -⟩ := hTold
      intro job' call report hMem
      exact absurd hMem (not_brokeDown_mem_notesOf _ job' _ call report)
    | abort now hWorker =>
      rw [hWorker] at h
      intro job call report hMem
      obtain ⟨rfl, hStage⟩ := h job call report hMem
      exact ⟨now, by rw [hStage]⟩
    | take | leave | record => trivial

/-- Besides what is told of the finished jobs and of the one in hand, the outcomes of aborted jobs
have the right stages. -/
def Scene.Blaming (s : Scene) (notes : List Note) : Prop :=
  ∃ blocks current, notes = blocks.flatten ++ current ∧
    List.Forall₂ (fun p block => Recounts p block ∧ Blames p block) s.finished blocks ∧
    (s.worker.getD .free).Told current ∧ (s.worker.getD .free).Blames s.queue.shownStage current

theorem telling_blaming {s s' : Scene} {notes new : List Note} (hOrderly : Orderly s)
    (hFitting : s.Fitting) (h : s.Blaming notes) (hTelling : Telling s s' new) :
    s'.Blaming (notes ++ new) := by
  obtain ⟨blocks, current, rfl, hBlocks, hTold, hBlames⟩ := h
  have hBlames' := telling_blames hOrderly hFitting hTold hBlames hTelling
  rcases telling_cases hTelling hTold with
    ⟨hFinished, hTold'⟩ | ⟨job, o, hWorker, hWorker', hFinished, rfl⟩
  · exact ⟨blocks, current ++ new, List.append_assoc .., hFinished ▸ hBlocks, hTold', hBlames'⟩
  · rw [hWorker] at hTold hBlames
    refine ⟨blocks ++ [current], [], by simp, ?_, by rw [hWorker']; rfl, by rw [hWorker']; trivial⟩
    rw [hFinished]
    exact List.rel_append hBlocks (.cons ⟨hTold, hBlames⟩ .nil)

/-- The scene of a run, with all that is known of it here. -/
theorem run_blaming (limit : Nat) (actions : List Action) :
    let c := Chronicle.run limit actions
    ∃ leaving active, c.history.system.Staffed leaving active ∧
      Orderly (c.history.scene active) ∧ (c.history.scene active).Fitting ∧
      (c.history.scene active).Blaming c.notes := by
  refine run_telling (P := fun s notes => Orderly s ∧ s.Fitting ∧ s.Blaming notes) ?_ ?_ actions
  · exact ⟨start_orderly limit, start_fitting limit, [], [], rfl, .nil, rfl, trivial⟩
  · rintro s s' notes new ⟨hOrderly, hFitting, hBlaming⟩ hTelling
    exact ⟨turn_orderly hOrderly hTelling.turn, turn_fitting hFitting hTelling.turn,
      telling_blaming hOrderly hFitting hBlaming hTelling⟩

/-! ## Every run -/

/-- What the outcome of a job recalls of its calls: all of them if none broke down, and otherwise
the one that did. -/
def Recalls (p : Job × Outcome) (notes : List Note) : Prop :=
  (∃ x : StageResults, notes = notesOf p.1 x.course ∧
    List.Forall₂ Answer.Entered x.course p.2.stages ∧ p.2.RanAsBegun notes) ∨
  ∃ answers call report now, Leads answers call ∧
    notes = notesOf p.1 answers ++ [.began p.1 call, .brokeDown p.1 call report] ∧
    p.2 = Worker.abortedOutcome p.1 call.stage report now ∧
    (p.2.TellsAll answers call ↔ call = .persist) ∧ (p.2.RanAsBegun notes ↔ call = .persist)

theorem recalls_of_recounts {p : Job × Outcome} {notes : List Note} (hRecounts : Recounts p notes)
    (hBlames : Blames p notes) : Recalls p notes := by
  rcases p with ⟨job, o⟩
  rcases hRecounts with ⟨x, rfl, hEntered⟩ | ⟨answers, call, report, hLeads, rfl⟩
  · exact .inl ⟨x, rfl, hEntered, Outcome.ranAsBegun_of_entered hEntered job⟩
  · obtain ⟨now, rfl⟩ : ∃ now, o = Worker.abortedOutcome job call.stage report now :=
      hBlames job call report (by simp)
    exact .inr ⟨answers, call, report, now, hLeads, rfl, rfl,
      abortedOutcome_tellsAll_iff hLeads job report now,
      abortedOutcome_ranAsBegun_iff hLeads job report now⟩

/-- The steps in which the call of a worker ends as it does, and the outcome of its job is
recorded. -/
def abortActions (i : Nat) (behaviour : Behaviour) (now : Instant) : List Action :=
  [.callEnd i behaviour, .workerStep i now, .workerStep i now]

namespace Chronicle

/-- A call that breaks down takes its job to the end. -/
theorem abort_reaches {c : Chronicle} {i : Nat} {job : Job} {o : Outcome} {call : Call}
    {behaviour : Behaviour} {report : String} (now : Instant)
    (hAt : c.history.system.workers[i]? = some (.busy job o call))
    (hStage : c.history.system.queue.shownStage = call.stage)
    (hEnding : behaviour job call = .brokeDown report) :
    let c' := (abortActions i behaviour now).foldl act c
    c'.notes = c.notes ++ [.brokeDown job call report] ∧
      c'.history.finished =
        c.history.finished ++ [(job, Worker.abortedOutcome job call.stage report now)] := by
  have hLength : i < c.history.system.workers.length := (List.getElem?_eq_some_iff.mp hAt).1
  have hAborted : (c.history.system.callEnd i behaviour).workers[i]? =
      some (.aborted job report) := by
    simp only [System.callEnd, List.getElem?_modify_eq, hAt, Option.map_eq_map, Option.map_some,
      Worker.endCall, hEnding]
  have hFinished : ((c.history.system.callEnd i behaviour).workerStep i now).workers[i]? =
      some (.finished job (Worker.abortedOutcome job call.stage report now)) := by
    have hShown : (c.history.system.callEnd i behaviour).queue.shownStage = call.stage := hStage
    have hLength' : i < (c.history.system.callEnd i behaviour).workers.length := by
      simpa [System.callEnd] using hLength
    simp only [System.workerStep, hAborted, Worker.step, List.getElem?_set_self hLength', hShown]
  constructor
  · simp [abortActions, act, History.act, System.act, noted, hAt, hAborted, hFinished,
      Worker.opens, Worker.closes, hEnding, Note.ofEnding]
  · simp [abortActions, act, History.act, System.act, History.outcomes, hAborted, hFinished,
      Worker.records]

end Chronicle

/-- **What is left of an aborted job.** In every run, the outcome of a job of which no call broke
down has an entry for each call, and says of exactly the stages that were begun that they ran. If a
call broke down, the outcome has one entry, a failure at the stage of this call with the report of
the breakdown, and is otherwise as if the job had started when it was aborted. So it tells of the
calls that had returned, and of the stages that were begun, exactly if the first of all calls broke
down; behind any later call the stages that were completed are forgotten. And whenever a worker is
in a call that breaks down, its next steps record such an outcome. -/
theorem run_recalls (limit : Nat) (actions : List Action) :
    let c := Chronicle.run limit actions
    c.history = History.run limit actions ∧
    (∃ blocks current, c.notes = blocks.flatten ++ current ∧
      List.Forall₂ Recalls c.history.finished blocks) ∧
    ∀ (i : Nat) (job : Job) (o : Outcome) (call : Call) (behaviour : Behaviour) (report : String)
      (now : Instant), c.history.system.workers[i]? = some (.busy job o call) →
      behaviour job call = .brokeDown report →
      let c' := (abortActions i behaviour now).foldl Chronicle.act c
      c'.notes = c.notes ++ [.brokeDown job call report] ∧
        c'.history.finished =
          c.history.finished ++ [(job, Worker.abortedOutcome job call.stage report now)] := by
  intro c
  obtain ⟨leaving, active, hs, hOrderly, hFitting, blocks, current, hNotes, hBlocks, -⟩ :=
    run_blaming limit actions
  refine ⟨Chronicle.run_history limit actions, ⟨blocks, current, hNotes, ?_⟩, ?_⟩
  · exact hBlocks.imp fun _ _ h => recalls_of_recounts h.1 h.2
  · intro i job o call behaviour report now hAt hEnding
    obtain ⟨-, rfl⟩ := active_of_crew (hs.workers ▸ hAt) (by simp)
    exact Chronicle.abort_reaches now hAt (shownStage_of_busy hOrderly hFitting rfl) hEnding

/-- The compiler crashes behind a recording that was stored. -/
theorem run_recalls_uncompiled :
    let job : Job := ⟨⟨0⟩, "login", "run", .null, ⟨0, 0⟩⟩
    let behaviour : Behaviour := fun _ call =>
      match call with
      | .persist => .returned (.ok "login.json")
      | _ => .brokeDown "compiler crashed"
    let actions : List Action := [.submit job, .workerStep 0 ⟨1, 0⟩, .workerStep 0 ⟨1, 0⟩,
      .callEnd 0 behaviour, .workerStep 0 ⟨1, 0⟩]
    (∃ o, (Chronicle.run 5 actions).history.system.workers[0]? =
      some (.busy job o (.compile "login.json"))) ∧
    ((abortActions 0 behaviour ⟨2, 0⟩).foldl Chronicle.act
      (Chronicle.run 5 actions)).history.finished =
        [(job, Worker.abortedOutcome job .compiling "compiler crashed" ⟨2, 0⟩)] := by
  intro job behaviour actions
  obtain ⟨-, -, hAbort⟩ := run_recalls 5 actions
  exact ⟨⟨_, rfl⟩, (hAbort 0 job _ (.compile "login.json") behaviour _ ⟨2, 0⟩ rfl rfl).2⟩

/-- A stage that was completed is forgotten when a later one breaks down. -/
theorem stored_recording_forgotten :
    ¬ ∀ (limit : Nat) (actions : List Action) (p : Job × Outcome) (call : Call),
      p ∈ (Chronicle.run limit actions).history.finished →
      .began p.1 call ∈ (Chronicle.run limit actions).notes → p.2.ran call.stage = true := by
  intro h
  let job : Job := ⟨⟨0⟩, "login", "run", .null, ⟨0, 0⟩⟩
  let behaviour : Behaviour := fun _ call =>
    match call with
    | .persist => .returned (.ok "login.json")
    | _ => .brokeDown "compiler crashed"
  let step : Action := .workerStep 0 ⟨1, 0⟩
  let actions : List Action := [.submit job, step, step, .callEnd 0 behaviour, step]
  let more : List Action := abortActions 0 behaviour ⟨1, 0⟩
  have hRun : Chronicle.run 5 (actions ++ more) =
      more.foldl Chronicle.act (Chronicle.run 5 actions) := List.foldl_append
  have hAt : (Chronicle.run 5 actions).history.system.workers[0]? =
      some (.busy job ((Outcome.start job ⟨1, 0⟩).record .persisting
        (.success "Saved login.json")) (.compile "login.json")) := rfl
  have hEnding : behaviour job (.compile "login.json") = .brokeDown "compiler crashed" := rfl
  obtain ⟨hNotes, hFinished⟩ :=
    Chronicle.abort_reaches ⟨1, 0⟩ hAt rfl hEnding
  have hFirst : (Chronicle.run 5 actions).notes.head? = some (.began job .persist) := rfl
  rw [← hRun] at hNotes hFinished
  have hRan := h 5 (actions ++ more) _ .persist
    (hFinished ▸ List.mem_append_right _ (List.mem_singleton_self _))
    (hNotes ▸ List.mem_append_left _ (List.mem_of_head? hFirst))
  exact absurd hRan (by decide)

end SessionReplay
