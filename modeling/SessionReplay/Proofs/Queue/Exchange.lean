import SessionReplay.Proofs.Json.Flattened
import SessionReplay.Proofs.Recording.Normal
import SessionReplay.Proofs.Report.Sending
import SessionReplay.Queue.Api
import SessionReplay.Service.Remote

/-!
# Both ends of the network understand each other

What one end writes of a submission or of the state of the queue, the other end reads.

* `Submission.reads_toJson`: a submission is read again but for parts that are `null`, which are
  missing to its reader; no job differs by them.
* `StageReport.reads_toJson`, `Outcome.reads_toJson`, `QueueStatus.reads_toJson`: each is read again
  as it was.
* `QueueStatus.instants`, `QueueStatus.identifiers`: all that is shown of a state by texts of its
  own.
* `exchange_agrees`: a submission is judged the same on both ends, and the state of the queue that
  is shown is the one that is seen.
-/

namespace SessionReplay

open Json Net

/-! ## Submissions -/

/-- A field for any value takes `null` for a value that is missing. -/
theorem writes_value {name : String} {members : List (String × Json)} {o : Option Json}
    (hMember : member? name members = o) (hOrdered : ∀ v ∈ o, v.Ordered) :
    (Fields.optional name Node.toJson).Writes members (o.filter fun v => !v.isNull) := by
  refine Fields.writes_field (fun w hThere => ?_) fun hMissing => ?_
  · obtain rfl : o = some w := hMember.symm.trans hThere
    have hValue : Node.Reads Node.toJson w w := Node.reads_toJson (hOrdered w rfl)
    by_cases hNull : w = .null
    · subst hNull
      exact Node.reads_asOption_null Node.toJson
    · have hKept : (some w).filter (fun v => !v.isNull) = some w := by
        cases w <;> simp_all [isNull]
      rw [hKept]
      exact Node.reads_asOption hValue hNull
  · obtain rfl : o = none := hMember.symm.trans hMissing
    rfl

namespace Submission

/-- The submission without the parts that are `null`. -/
def withoutNulls (s : Submission) : Submission :=
  { s with recording := s.recording.filter (!·.isNull), runId := s.runId.filter (!·.isNull) }

/-- The members of a submission that is written. -/
def written (s : Submission) : List (String × Json) :=
  match s.toJson with
  | .object members => members
  | _ => []

theorem member?_written (s : Submission) (name : String) :
    member? name s.written =
      ((if "TestName" = name then s.testName.map .string else none).or
        (if "Recording" = name then s.recording.map id else none)).or
        (if "TestRunId" = name then s.runId.map id else none) := by
  simp only [written, toJson, member?_append, member?_member]

theorem reads_toJson {s : Submission} (hRecording : ∀ v ∈ s.recording, v.Ordered)
    (hRunId : ∀ v ∈ s.runId, v.Ordered) : Node.Reads decode s.toJson s.withoutNulls := by
  have hNames : (s.written.map (·.1)).Sublist ["TestName", "Recording", "TestRunId"] := by
    simp only [written, toJson, List.map_append]
    exact ((names_member ..).append (names_member ..)).append (names_member ..)
  have hName : (Fields.optional "TestName" Node.asString).Writes s.written s.testName :=
    writes_member (by simp [member?_written]) fun text =>
      Node.reads_asOption (Node.reads_asString text) (by simp)
  have hValue : (Fields.optional "Recording" Node.toJson).Writes s.written
      (s.recording.filter (!·.isNull)) := writes_value (by simp [member?_written]) hRecording
  have hRun : (Fields.optional "TestRunId" Node.toJson).Writes s.written
      (s.runId.filter (!·.isNull)) := writes_value (by simp [member?_written]) hRunId
  exact Fields.reads_record hNames (by decide) (by decide)
    (Fields.writes_seq (Fields.writes_seq (Fields.writes_map hName Submission.mk) hValue) hRun)
    "SubmitTest"

theorem runId?_withoutNulls (s : Submission) : s.withoutNulls.runId? = s.runId? := by
  obtain ⟨name, recording, runId⟩ := s
  cases runId with
  | none => rfl
  | some v => cases v <;> rfl

/-- A part that is `null` is as good as missing. -/
theorem toJob?_withoutNulls (s : Submission) (id : Identifier) (now : Instant) :
    s.withoutNulls.toJob? id now = s.toJob? id now := by
  have hRecording : s.withoutNulls.recording? = s.recording? := by
    simp [recording?, withoutNulls, Option.filter_filter]
  have hName : s.withoutNulls.name? = s.name? := rfl
  simp only [toJob?, hName, hRecording, runId?_withoutNulls]

end Submission

/-! ## Times, identifiers and stages -/

theorem reads_asInstant {t : Instant} (h : Instant.read t.text = .ok t) :
    Node.Reads Node.asInstant (.string t.text) t := by
  apply Node.reads_asParsed
  rw [h]
  rfl

theorem reads_asIdentifier {i : Identifier} (h : Identifier.read i.text = .ok i) :
    Node.Reads Node.asIdentifier (.string i.text) i := by
  apply Node.reads_asParsed
  rw [h]
  rfl

theorem Stage.reads_toJson (s : Stage) : Node.Reads decode s.toJson s := by
  apply Node.reads_asName
  cases s <;> rfl

/-! ## Outcomes -/

namespace StageReport

/-- The members of a report that is written: the stage, and those of its result. -/
def written (r : StageReport) : List (String × Json) :=
  match r.toJson with
  | .object members => members
  | _ => []

theorem member?_written (r : StageReport) (name : String) :
    member? name r.written =
      (if "stage" = name then some r.stage.toJson else none).or
        (((if "ok" = name then some (.bool r.result.ok) else none).or
          (if "message" = name then some (.string r.result.message) else none)).or
          (if "exitCode" = name then r.result.exitCode.map ofInt32 else none)) := by
  have hParts : r.written = [("stage", r.stage.toJson)] ++ ([("ok", .bool r.result.ok)] ++
      [("message", .string r.result.message)] ++
      Step.member "exitCode" ofInt32 r.result.exitCode) := rfl
  simp only [hParts, member?_append, member?_member, member?_singleton]

theorem ordered_written (r : StageReport) : ∀ e ∈ r.written, e.2.Ordered := by
  obtain ⟨stage, ok, message, exitCode⟩ := r
  cases exitCode with
  | none => simp [written, toJson, StageResult.members, Step.member, Stage.toJson, Ordered]
  | some code =>
    obtain ⟨m, hNumber, -⟩ := exists_ofInt32 code
    simp [written, toJson, StageResult.members, Step.member, Stage.toJson, hNumber, Ordered]

/-- The result of a stage is read again out of the object that holds the stage. -/
theorem reads_toJson (r : StageReport) : Node.Reads decode r.toJson r := by
  have hNames : (r.written.map (·.1)).Sublist ["stage", "ok", "message", "exitCode"] :=
    (List.Sublist.refl ["stage", "ok", "message"]).append (names_member ..)
  have hStage : (Fields.required "stage" Stage.decode).Writes r.written r.stage :=
    Fields.writes_present (by simp [member?_written]) r.stage.reads_toJson
  have hOk : (Fields.required "ok" Node.asBool).Writes r.written r.result.ok :=
    Fields.writes_present (by simp [member?_written]) (Node.reads_asBool r.result.ok)
  have hMessage : (Fields.required "message" Node.asString).Writes r.written r.result.message :=
    Fields.writes_present (by simp [member?_written]) (Node.reads_asString r.result.message)
  have hExit : (Fields.optional "exitCode" Node.asInt32).Writes r.written r.result.exitCode := by
    have hMember : member? "exitCode" r.written = r.result.exitCode.map ofInt32 := by
      simp [member?_written]
    refine writes_member hMember fun code => ?_
    obtain ⟨m, hNumber, -⟩ := exists_ofInt32 code
    exact Node.reads_asOption (Node.reads_asInt32 code) (by simp [hNumber])
  have hResult : StageResult.fields.Writes r.written r.result :=
    Fields.writes_seq (Fields.writes_seq (Fields.writes_map hOk StageResult.mk) hMessage) hExit
  have hApart : ∀ name, StageResult.fields.holds name = true →
      (Fields.required "stage" Stage.decode).holds name = false := by
    intro name hField
    by_cases hSame : name = "stage"
    · subst hSame
      contradiction
    · simp [Fields.holds, Fields.required, Fields.field, hSame]
  exact Node.reads_map (Fields.reads_decodeWith (hNames.nodup (by decide))
    (fun e hMem _ => r.ordered_written e hMem) hApart hStage hResult "StageReport") _

end StageReport

namespace Outcome

def instants (o : Outcome) : List Instant := o.startedAt :: o.finishedAt.toList

theorem reads_toJson {o : Outcome} (hTimes : ∀ t ∈ o.instants, Instant.read t.text = .ok t)
    (hId : Identifier.read o.jobId.text = .ok o.jobId) : Node.Reads decode o.toJson o := by
  let members : List (String × Json) :=
    [("jobId", .string o.jobId.text), ("testName", .string o.testName),
      ("runId", .string o.runId), ("startedAt", .string o.startedAt.text),
      ("finishedAt", ofOption (fun t => .string t.text) o.finishedAt),
      ("stages", .array (o.stages.map StageReport.toJson))]
  have hJob : (Fields.required "jobId" Node.asIdentifier).Writes members o.jobId :=
    Fields.writes_present rfl (reads_asIdentifier hId)
  have hName : (Fields.required "testName" Node.asString).Writes members o.testName :=
    Fields.writes_present rfl (Node.reads_asString o.testName)
  have hRun : (Fields.required "runId" Node.asString).Writes members o.runId :=
    Fields.writes_present rfl (Node.reads_asString o.runId)
  have hStart : (Fields.required "startedAt" Node.asInstant).Writes members o.startedAt :=
    Fields.writes_present rfl (reads_asInstant (hTimes o.startedAt (by simp [instants])))
  have hFinish : (Fields.nullable "finishedAt" Node.asInstant).Writes members o.finishedAt := by
    refine Fields.writes_present rfl (Node.reads_ofOption (fun t hMem => ?_) (by simp))
    exact reads_asInstant (hTimes t (by simp [instants, Option.mem_def.1 hMem]))
  have hStages : (Fields.required "stages" (Node.asList StageReport.decode)).Writes members
      o.stages :=
    Fields.writes_present rfl (Node.reads_asList fun r _ => r.reads_toJson)
  exact Fields.reads_record (.refl _) (by decide) (by decide)
    (Fields.writes_seq (Fields.writes_seq (Fields.writes_seq (Fields.writes_seq (Fields.writes_seq
      (Fields.writes_map hJob Outcome.mk) hName) hRun) hStart) hFinish) hStages) "JobOutcome"

end Outcome

/-! ## The state of the queue -/

theorem QueuedJob.reads_toJson (q : QueuedJob) : Node.Reads decode q.toJson q := by
  let members : List (String × Json) :=
    [("TestName", .string q.testName), ("TestRunId", .string q.runId)]
  have hName : (Fields.required "TestName" Node.asString).Writes members q.testName :=
    Fields.writes_present rfl (Node.reads_asString q.testName)
  have hRun : (Fields.required "TestRunId" Node.asString).Writes members q.runId :=
    Fields.writes_present rfl (Node.reads_asString q.runId)
  exact Fields.reads_record (.refl _) (by decide) (by decide)
    (Fields.writes_seq (Fields.writes_map hName QueuedJob.mk) hRun) "QueueItem"

theorem RunningJob.reads_toJson {r : RunningJob}
    (hTime : Instant.read r.startedAt.text = .ok r.startedAt) : Node.Reads decode r.toJson r := by
  let members : List (String × Json) :=
    [("TestName", .string r.testName), ("TestRunId", .string r.runId),
      ("stage", r.stage.toJson), ("startedAt", .string r.startedAt.text)]
  have hName : (Fields.required "TestName" Node.asString).Writes members r.testName :=
    Fields.writes_present rfl (Node.reads_asString r.testName)
  have hRun : (Fields.required "TestRunId" Node.asString).Writes members r.runId :=
    Fields.writes_present rfl (Node.reads_asString r.runId)
  have hStage : (Fields.required "stage" Stage.decode).Writes members r.stage :=
    Fields.writes_present rfl r.stage.reads_toJson
  have hStart : (Fields.required "startedAt" Node.asInstant).Writes members r.startedAt :=
    Fields.writes_present rfl (reads_asInstant hTime)
  exact Fields.reads_record (.refl _) (by decide) (by decide)
    (Fields.writes_seq (Fields.writes_seq (Fields.writes_seq
      (Fields.writes_map hName RunningJob.mk) hRun) hStage) hStart) "RunningJob"

namespace QueueStatus

def instants (q : QueueStatus) : List Instant :=
  (q.currentRunning.map (·.startedAt)).toList ++ q.recent.flatMap Outcome.instants

def identifiers (q : QueueStatus) : List Identifier := q.recent.map (·.jobId)

theorem reads_toJson {q : QueueStatus} (hTimes : ∀ t ∈ q.instants, Instant.read t.text = .ok t)
    (hIds : ∀ i ∈ q.identifiers, Identifier.read i.text = .ok i) :
    Node.Reads decode q.toJson q := by
  let members : List (String × Json) :=
    [("queueLength", .ofWord q.queueLength),
      ("queueItems", .array (q.queueItems.map QueuedJob.toJson)),
      ("currentRunning", ofOption RunningJob.toJson q.currentRunning),
      ("isProcessing", .bool q.isProcessing),
      ("recent", .array (q.recent.map Outcome.toJson))]
  have hLength : (Fields.required "queueLength" (Node.asWord "usize")).Writes members
      q.queueLength :=
    Fields.writes_present rfl (Node.reads_asWord "usize" q.queueLength)
  have hItems : (Fields.required "queueItems" (Node.asList QueuedJob.decode)).Writes members
      q.queueItems :=
    Fields.writes_present rfl (Node.reads_asList fun item _ => item.reads_toJson)
  have hRunning : (Fields.nullable "currentRunning" RunningJob.decode).Writes members
      q.currentRunning := by
    refine Fields.writes_present rfl (Node.reads_ofOption (fun r hMem => ?_) fun r => ?_)
    · exact RunningJob.reads_toJson (hTimes r.startedAt (by simp [instants, Option.mem_def.1 hMem]))
    · simp [RunningJob.toJson]
  have hProcessing : (Fields.required "isProcessing" Node.asBool).Writes members q.isProcessing :=
    Fields.writes_present rfl (Node.reads_asBool q.isProcessing)
  have hRecent : (Fields.withDefault "recent" (Node.asList Outcome.decode) []).Writes members
      q.recent := by
    refine Fields.writes_present rfl (Node.reads_asList fun o hMem => ?_)
    apply Outcome.reads_toJson
    · intro t hTime
      exact hTimes t (List.mem_append_right _ (List.mem_flatMap.2 ⟨o, hMem, hTime⟩))
    · exact hIds o.jobId (List.mem_map_of_mem hMem)
  exact Fields.reads_record (.refl _) (by decide) (by decide)
    (Fields.writes_seq (Fields.writes_seq (Fields.writes_seq (Fields.writes_seq
      (Fields.writes_map hLength QueueStatus.mk) hItems) hRunning) hProcessing) hRecent)
    "QueueStatus"

end QueueStatus

/-! ## Both ends -/

namespace RemoteQueue

section Call

variable {α : Type} {q : RemoteQueue} {path : String} {request : Url → Request}
  {read : Node → Except Fault α} {h : Host} {sent : Request}

theorem call_eq {url : Url} {answer : Response} (hUrl : Url.ofText? (q.baseUrl ++ path) = some url)
    (hSend : Host.canSend (request url) = true)
    (hAnswer : h.network h.sent (request url) = some answer) :
    q.call path request read h =
      (if answer.isSuccess then readAnswer read answer
        else .error (.refused answer.status answer.text), h.behind [request url]) := by
  rw [call, Host.accepted_sendTo hUrl hSend hAnswer]
  cases hSuccess : answer.isSuccess <;> simp [Except.bind]

/-- A call that sends a request sends the one that it was given, and makes of its answer what its
reader does. -/
theorem call_of_sent (hSent : (q.call path request read h).2.sent = h.sent ++ [sent]) :
    ∃ url answer, sent = request url ∧ h.network h.sent sent = some answer ∧
      (answer.isSuccess = true → (q.call path request read h).1 = readAnswer read answer) := by
  cases hUrl : Url.ofText? (q.baseUrl ++ path) with
  | none => simp [call, Host.sendTo, hUrl, Host.accepted] at hSent
  | some url =>
    cases hSend : Host.canSend (request url) with
    | false => simp [call, Host.sendTo, hUrl, Host.send, hSend, Host.accepted] at hSent
    | true =>
      cases hAnswer : h.network h.sent (request url) with
      | none => simp [call, Host.sendTo, hUrl, Host.send, hSend, hAnswer, Host.accepted] at hSent
      | some answer =>
        rw [call_eq hUrl hSend hAnswer] at hSent ⊢
        obtain rfl : request url = sent := by simpa [Host.behind] using hSent
        exact ⟨url, answer, rfl, hAnswer, fun hSuccess => by simp [hSuccess]⟩

end Call

end RemoteQueue

/-- A request as it comes to a server: its document is told by the type of its body and written
into it. -/
structure ArrivesAs (sent : Request) (request : ApiRequest) : Prop where
  isJson : request.contentType = some "application/json"
  body : ∃ v, sent.body = some v ∧ Recording.Prints request.body v

/-- What a client submits is decoded by the server. -/
theorem submission_of_sent {q : RemoteQueue} {s : Submission} {h : Host} {sent : Request}
    {request : ApiRequest} (hSent : (q.submit s h).2.sent = h.sent ++ [sent])
    (hArrives : ArrivesAs sent request) (hRecording : ∀ v ∈ s.recording, v.Ordered)
    (hRunId : ∀ v ∈ s.runId, v.Ordered) : request.submission = .ok s.withoutNulls := by
  rw [RemoteQueue.submit] at hSent
  obtain ⟨url, -, rfl, -, -⟩ := RemoteQueue.call_of_sent hSent
  obtain ⟨v, hBody, hPrints⟩ := hArrives.body
  obtain rfl := Option.some.inj hBody
  have hRead : decodeText Submission.decode request.body = .ok s.withoutNulls :=
    Recording.decodeText_of_prints hPrints (Submission.reads_toJson hRecording hRunId)
  rw [ApiRequest.submission, hRead]
  rfl

/-- A document that is not too long is read. -/
theorem readSubmission_of_arrivesAs {sent : Request} {request : ApiRequest}
    (hArrives : ArrivesAs sent request) (hSize : request.isTooLong = false) :
    readSubmission request = request.submission := by
  have hJson : request.hasJson = true := by
    unfold ApiRequest.hasJson
    rw [hArrives.isJson]
    decide +kernel
  simp [readSubmission, hJson, hSize]

/-- **Both ends of the network understand each other.** What a client submits is decoded, and taken
for a job, or not, as it would be without the network, and for the same job; unless its body is too
long, this is what the server goes by. The state of the queue that a server writes is the one that
the client has. The documents are taken to be read as they are written, and so are the times and the
identifiers in them; the values in a submission are in order, as all values are that were read. -/
theorem exchange_agrees (q : RemoteQueue) (h : Host) (sent : Request) :
    (∀ (s : Submission) (request : ApiRequest), (q.submit s h).2.sent = h.sent ++ [sent] →
      ArrivesAs sent request → (∀ v ∈ s.recording, v.Ordered) → (∀ v ∈ s.runId, v.Ordered) →
      ∃ s', request.submission = .ok s' ∧ (∀ id now, s'.toJob? id now = s.toJob? id now) ∧
        (request.isTooLong = false → readSubmission request = .ok s')) ∧
    (∀ (status : QueueStatus) (answer : Response), (q.status h).2.sent = h.sent ++ [sent] →
      h.network h.sent sent = some answer → answer.isSuccess = true →
      Recording.Prints answer.body status.toJson →
      (∀ t ∈ status.instants, Instant.read t.text = .ok t) →
      (∀ i ∈ status.identifiers, Identifier.read i.text = .ok i) →
      (q.status h).1 = .ok status) := by
  constructor
  · intro s request hSent hArrives hRecording hRunId
    have hDecoded := submission_of_sent hSent hArrives hRecording hRunId
    refine ⟨s.withoutNulls, hDecoded, s.toJob?_withoutNulls, fun hSize => ?_⟩
    rw [readSubmission_of_arrivesAs hArrives hSize, hDecoded]
  · intro status answer hSent hAnswer hSuccess hPrints hTimes hIds
    rw [RemoteQueue.status] at hSent ⊢
    obtain ⟨url, other, rfl, hOther, hCall⟩ := RemoteQueue.call_of_sent hSent
    obtain rfl : answer = other := Option.some.inj (hAnswer.symm.trans hOther)
    have hRead : decodeText QueueStatus.decode answer.body = .ok status :=
      Recording.decodeText_of_prints hPrints (QueueStatus.reads_toJson hTimes hIds)
    rw [hCall hSuccess, RemoteQueue.readAnswer, hRead]

/-- A text is looked at through its characters. -/
theorem prints_of_toList {text : String} {cs : List Char} {v : Json} (hText : text.toList = cs)
    (h : let part := readNode (3 * cs.length + 3) 0 ⟨cs, 1, 0⟩
      v.isShownBy part.value && part.after.all fun c => c.skipSpace.rest.isEmpty) :
    Recording.Prints text v := by
  subst hText
  obtain ⟨hShown, hEnd⟩ := Bool.and_eq_true_iff.1 h
  refine ⟨hShown, Option.bind_eq_none_iff.2 fun c hAfter => ?_⟩
  rw [hAfter] at hEnd
  exact if_pos hEnd

/-- A submission with a number for its run, and a state with a stage that has an exit code. -/
theorem exchange_agrees_flattened :
    let url : Url := ⟨"http", "queue", ["api", "run-test"], none, none⟩
    let s : Submission :=
      ⟨some "Login", some (.object [("steps", .array [])]), some (.number (.natural 17))⟩
    let submitted : Request := { method := .post, url, body := some s.toJson }
    let request : ApiRequest := ⟨"POST", "/api/run-test", some "application/json",
      "\x7b\"TestName\":\"Login\",\"Recording\":\x7b\"steps\":[]\x7d,\"TestRunId\":17\x7d"⟩
    let status : QueueStatus :=
      ⟨0, [], none, false, [⟨⟨42⟩, "Sort", "r1", ⟨1731931100, 0⟩, none,
        [⟨.executing, ⟨false, "exit", some (-1)⟩⟩]⟩]⟩
    let text := "\x7b\"queueLength\":0,\"queueItems\":[],\"currentRunning\":null," ++
      "\"isProcessing\":false,\"recent\":[\x7b\"jobId\":\"00000000-0000-0000-0000-00000000002a\"," ++
      "\"testName\":\"Sort\",\"runId\":\"r1\",\"startedAt\":\"2024-11-18T11:58:20Z\"," ++
      "\"finishedAt\":null,\"stages\":[\x7b\"stage\":\"Executing\",\"ok\":false," ++
      "\"message\":\"exit\",\"exitCode\":-1\x7d]\x7d]\x7d"
    let asked : Request := { method := .get, url := { url with path := ["api", "queue-status"] } }
    let h : Host :=
      { disk := ⟨[], List.nodup_nil, by simp, [], []⟩, clock := fun _ => ⟨0, 0⟩,
        network := fun _ _ => some ⟨200, text⟩ }
    let q : RemoteQueue := ⟨"http://queue"⟩
    (q.submit s h).2.sent = h.sent ++ [submitted] ∧ ArrivesAs submitted request ∧
      (∃ s', readSubmission request = .ok s' ∧ ∀ id now, s'.toJob? id now = s.toJob? id now) ∧
      (q.status h).2.sent = h.sent ++ [asked] ∧ (q.status h).1 = .ok status := by
  intro url s submitted request status text asked h q
  have hSubmitUrl : Url.ofText? (q.baseUrl ++ "/api/run-test") = some url := by decide +kernel
  have hSubmitted : (q.submit s h).2.sent = h.sent ++ [submitted] := by
    rw [RemoteQueue.submit, RemoteQueue.call_eq hSubmitUrl rfl rfl]
    rfl
  have hBody : Recording.Prints request.body s.toJson :=
    prints_of_toList String.toList_ofList (by decide +kernel)
  have hArrives : ArrivesAs submitted request := ⟨rfl, s.toJson, rfl, hBody⟩
  have hAskUrl : Url.ofText? (q.baseUrl ++ "/api/queue-status") = some asked.url := by
    decide +kernel
  have hAsked : (q.status h).2.sent = h.sent ++ [asked] := by
    rw [RemoteQueue.status, RemoteQueue.call_eq hAskUrl rfl rfl]
    rfl
  have hPrints : Recording.Prints text status.toJson := by
    apply prints_of_toList
    · rw [String.toList_append, String.toList_append, String.toList_append, String.toList_append,
        String.toList_ofList, String.toList_ofList, String.toList_ofList, String.toList_ofList,
        String.toList_ofList]
    · decide +kernel
  have hTimes : ∀ t ∈ status.instants, Instant.read t.text = .ok t := by decide +kernel
  have hIds : ∀ i ∈ status.identifiers, Identifier.read i.text = .ok i := by decide +kernel
  refine ⟨hSubmitted, hArrives, ?_, hAsked, ?_⟩
  · have hRecording : ∀ v ∈ s.recording, v.Ordered := by
      simp [s, Ordered, MembersOrdered, ItemsOrdered]
    have hRunId : ∀ v ∈ s.runId, v.Ordered := by simp [s, Ordered]
    obtain ⟨s', -, hSame, hRead⟩ :=
      (exchange_agrees q h submitted).1 s request hSubmitted hArrives hRecording hRunId
    exact ⟨s', hRead (by decide +kernel), hSame⟩
  · exact (exchange_agrees q h asked).2 status ⟨200, text⟩ hAsked rfl rfl hPrints hTimes hIds

end SessionReplay
