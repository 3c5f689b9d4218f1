import SessionReplay.Proofs.Net.Address
import SessionReplay.Proofs.Report.Delivery

/-!
# The requests of publishing

* `Host.Sends`: requests that are sent one after the other, up to the first that is refused.
* `Account.Connected`: nothing but the answers of the servers decides what comes of publishing.
* `Account.publish_sends`: a login and the posts of the reports, in order, up to the first of them
  that is refused.
-/

namespace SessionReplay

open Net

/-! ## Requests up to the first that is refused -/

namespace Host

variable {α : Type} {h : Host} {request : Request} {requests rest : List Request} {value : α}
  {outcome : Except ServiceFailure α × Host}

/-- What comes of requests that are sent one after the other: a value if all of them are accepted,
and a failure that tells the answer to the first that is refused. Each is sent once, and none is
sent behind the one that is refused. -/
inductive Sends (h : Host) (requests : List Request) (value : α) :
    Except ServiceFailure α × Host → Prop where
  | all (hAccepts : h.Accepts requests) : Sends h requests value (.ok value, h.behind requests)
  | refused {before after : List Request} {refused : Request} {answer : Response}
    (hRequests : requests = before ++ refused :: after) (hAccepts : h.Accepts before)
    (hAnswer : h.network (h.sent ++ before) refused = some answer)
    (hRefused : answer.isSuccess = false) :
    Sends h requests value
      (.error (.refused answer.status answer.text), h.behind (before ++ [refused]))

theorem accepts_append {first second : List Request} :
    h.Accepts (first ++ second) ↔ h.Accepts first ∧ (h.behind first).Accepts second := by
  induction first generalizing h with
  | nil => simp [Accepts]
  | cons request rest ih => simp [Accepts, ih, and_assoc]

namespace Sends

theorem cons {answer : Response} (hAnswer : h.network h.sent request = some answer)
    (hSuccess : answer.isSuccess = true) (hRest : (h.behind [request]).Sends rest value outcome) :
    h.Sends (request :: rest) value outcome := by
  cases hRest with
  | all hAccepts =>
    rw [behind_behind]
    exact .all ⟨⟨answer, hAnswer, hSuccess⟩, hAccepts⟩
  | @refused before after refused failure hRequests hAccepts hFailure hRefused =>
    rw [behind_behind]
    have hAll : h.Accepts (request :: before) := ⟨⟨answer, hAnswer, hSuccess⟩, hAccepts⟩
    refine .refused (by rw [hRequests, List.cons_append]) hAll ?_ hRefused
    simpa [behind] using hFailure

theorem head {answer : Response} (hAnswer : h.network h.sent request = some answer)
    (hRefused : answer.isSuccess = false) :
    h.Sends (request :: rest) value
      (.error (.refused answer.status answer.text), h.behind [request]) :=
  have hNone : h.Accepts [] := trivial
  .refused rfl hNone (by simpa using hAnswer) hRefused

/-- There is a value if and only if all requests are accepted. -/
theorem ok_iff (hSends : h.Sends requests value outcome) (result : α) :
    outcome.1 = .ok result ↔ h.Accepts requests ∧ result = value := by
  cases hSends with
  | all hAccepts => simp [hAccepts, eq_comm]
  | refused hRequests _ hAnswer hRefused =>
    simp only [reduceCtorEq, false_iff, not_and]
    intro hAll
    rw [hRequests, accepts_append] at hAll
    obtain ⟨answer, hAgain, hSuccess⟩ := hAll.2.1
    obtain rfl : _ = answer := Option.some.inj (hAnswer.symm.trans hAgain)
    rw [hRefused] at hSuccess
    cases hSuccess

end Sends

/-- A request that can be sent is accepted or refused, as it is answered. -/
theorem accepted_sendTo {address : String} {url : Url} {request : Url → Request}
    {answer : Response} (hUrl : Url.ofText? address = some url)
    (hSend : canSend (request url) = true) (hAnswer : h.network h.sent (request url) = some answer) :
    accepted (h.sendTo address request) =
      (if answer.isSuccess = true then .ok answer
        else .error (.refused answer.status answer.text), h.behind [request url]) := by
  simp only [sendTo, hUrl, send, hSend, hAnswer, accepted, behind]
  cases hSuccess : answer.isSuccess <;> simp [hSuccess]

end Host

/-! ## Publishing -/

namespace Account

variable {a : Account} {h : Host} {token form : String} {reports : List TestReport}

/-- The request for an entry of the reporting system has an address, every request is answered, and
the token that a login is answered with can be sent in a header. -/
structure Connected (a : Account) (h : Host) : Prop where
  address : (Url.ofText? a.loginAddress).isSome
  answered : ∀ sent request, (h.network sent request).isSome
  token : ∀ login answer, Url.ofText? a.loginAddress = some login →
    h.network h.sent (a.loginRequest login) = some answer → answer.isSuccess = true →
      isHeaderText answer.text = true

theorem isHeaderText_authorization (hToken : isHeaderText token = true) :
    isHeaderText (authorization token) = true := by
  have hPrefix : isHeaderText "AR-JWT " = true := by decide
  unfold authorization
  simp only [isHeaderText, String.toList_append, List.all_append, Bool.and_eq_true]
    at hToken hPrefix ⊢
  exact ⟨hPrefix, hToken⟩

/-- Where the login has an address, every form has one. -/
theorem isSome_entryAddress (hLogin : (Url.ofText? a.loginAddress).isSome) (form : String) :
    (Url.ofText? (a.entryAddress form)).isSome := by
  have hLogin : (Url.ofText? (a.url ++ "/api/" ++ "jwt/login")).isSome := by
    have hText : "/api/jwt/login" = "/api/" ++ "jwt/login" := by decide
    simpa only [loginAddress, hText, ← String.append_assoc] using hLogin
  have hText : "/api/arsys/v1/entry/" = "/api/" ++ "arsys/v1/entry/" := by decide
  have hEntry := Url.isSome_ofText?_below "jwt/login" ("arsys/v1/entry/" ++ form) hLogin
  simpa only [entryAddress, hText, ← String.append_assoc] using hEntry

/-- The request that posts a report. -/
def reportRequest (token : String) (entry : Url) (report : TestReport) : Request :=
  postRequest token (reportEntry report) entry

/-- What was posted and what of it failed, when these reports were posted as well. -/
def summaryAfter (before : PublishSummary) (reports : List TestReport) : PublishSummary :=
  ⟨before.posted + reports.length,
    before.failedTests + reports.countP fun report => report.status = "failed"⟩

theorem summaryAfter_cons (before : PublishSummary) (report : TestReport)
    (rest : List TestReport) :
    summaryAfter before (report :: rest) = summaryAfter (before.add report) rest := by
  by_cases hFailed : report.status = "failed" <;>
    simp [summaryAfter, PublishSummary.add, TestReport.isFailed, hFailed] <;> omega

theorem postReports_sends {entry : Url} (hEntry : Url.ofText? (a.entryAddress form) = some entry)
    (hToken : isHeaderText token = true)
    (hAnswered : ∀ sent request, (h.network sent request).isSome) (before : PublishSummary) :
    h.Sends (reports.map (reportRequest token entry)) (summaryAfter before reports)
      (a.postReports token form before reports h) := by
  induction reports generalizing before h with
  | nil =>
    have hAll : h.Sends [] before (.ok before, h.behind []) := .all trivial
    simpa [summaryAfter, postReports] using hAll
  | cons report rest ih =>
    obtain ⟨answer, hAnswer⟩ := Option.isSome_iff_exists.1
      (hAnswered h.sent (reportRequest token entry report))
    have hSend : Host.canSend (reportRequest token entry report) = true := by
      simp [Host.canSend, reportRequest, postRequest, isHeaderText_authorization hToken]
    have hPost := Host.accepted_sendTo hEntry hSend hAnswer
    cases hSuccess : answer.isSuccess with
    | true =>
      have hRest := ih (h := h.behind [reportRequest token entry report]) hAnswered
        (before.add report)
      rw [summaryAfter_cons]
      simp only [postReports, postEntry, hPost, hSuccess, if_true, Except.map]
      exact .cons hAnswer hSuccess hRest
    | false =>
      simp only [postReports, postEntry, hPost, hSuccess, Bool.false_eq_true, if_false, Except.map]
      exact .head hAnswer hSuccess

/-- **Publishing sends a login and then the posts of the reports in their order, each once, up to
the first of these that is refused.** It succeeds if and only if none is, and counts the reports
that it posted and those of tests that failed. Without a form nothing is sent. -/
theorem publish_sends (a : Account) (reports : List TestReport) (h : Host) :
    (a.resultsForm = none → a.publish reports h = (.error (.unset ["HELIX_FORM"]), h)) ∧
    ∀ form, a.resultsForm = some form → a.Connected h →
      ∃ login entry answer, Url.ofText? a.loginAddress = some login ∧
        Url.ofText? (a.entryAddress form) = some entry ∧
        h.network h.sent (a.loginRequest login) = some answer ∧
        h.Sends (a.loginRequest login :: reports.map (reportRequest answer.text entry))
          (summaryAfter {} reports) (a.publish reports h) ∧
        ∀ result, (a.publish reports h).1 = .ok result ↔
          h.Accepts (a.loginRequest login :: reports.map (reportRequest answer.text entry)) ∧
            result = summaryAfter {} reports := by
  refine ⟨fun hForm => by simp [publish, hForm], fun form hForm hConnected => ?_⟩
  obtain ⟨login, hLogin⟩ := Option.isSome_iff_exists.1 hConnected.address
  obtain ⟨entry, hEntry⟩ := Option.isSome_iff_exists.1
    (isSome_entryAddress hConnected.address form)
  obtain ⟨answer, hAnswer⟩ := Option.isSome_iff_exists.1
    (hConnected.answered h.sent (a.loginRequest login))
  have hSends : h.Sends (a.loginRequest login :: reports.map (reportRequest answer.text entry))
      (summaryAfter {} reports) (a.publish reports h) := by
    have hSend : Host.canSend (a.loginRequest login) = true := rfl
    have hSent := Host.accepted_sendTo hLogin hSend hAnswer
    cases hSuccess : answer.isSuccess with
    | true =>
      have hToken := hConnected.token login answer hLogin hAnswer hSuccess
      let after := h.behind [a.loginRequest login]
      have hAnswered : ∀ sent request, (after.network sent request).isSome := hConnected.answered
      have hPosts : after.Sends (reports.map (reportRequest answer.text entry))
          (summaryAfter {} reports) (a.postReports answer.text form {} reports after) :=
        postReports_sends hEntry hToken hAnswered {}
      simp only [publish, hForm, Account.login, hSent, hSuccess, if_true, Except.map]
      exact .cons hAnswer hSuccess hPosts
    | false =>
      simp only [publish, hForm, Account.login, hSent, hSuccess, Bool.false_eq_true, if_false,
        Except.map]
      exact .head hAnswer hSuccess
  exact ⟨login, entry, answer, hLogin, hEntry, hAnswer, hSends, hSends.ok_iff⟩

/-- The second of three reports is refused: three requests are sent, and publishing fails. -/
theorem publish_sends_refused :
    let a : Account := ⟨"http://helix", "user", "secret", some "Results", none⟩
    let report (name status : String) : TestReport :=
      ⟨name, name, status, 0, "", "login.cy.js", "login", "", "", true, "run"⟩
    let reports := [report "opens" "passed", report "closes" "failed", report "waits" "passed"]
    let h : Host :=
      { disk := .empty [], clock := fun _ => ⟨0, 0⟩,
        network := .scripted [⟨200, "token"⟩, ⟨201, ""⟩, ⟨500, "full"⟩] }
    a.Connected h ∧ (a.publish reports h).2.sent.length = 3 ∧
      (a.publish reports h).1 = .error (.refused 500 "full") ∧
      ∃ login entry answer, Url.ofText? a.loginAddress = some login ∧
        Url.ofText? (a.entryAddress "Results") = some entry ∧
        h.network h.sent (a.loginRequest login) = some answer ∧
        h.Sends (a.loginRequest login :: reports.map (reportRequest answer.text entry))
          ⟨3, 1⟩ (a.publish reports h) := by
  intro a report reports h
  have hConnected : a.Connected h := by
    refine ⟨by decide +kernel, fun sent request => rfl, fun login answer _ hAnswer _ => ?_⟩
    obtain rfl : (⟨200, "token"⟩ : Response) = answer := Option.some.inj hAnswer
    decide
  obtain ⟨login, entry, answer, hLogin, hEntry, hAnswer, hSends, -⟩ :=
    (publish_sends a reports h).2 "Results" rfl hConnected
  exact ⟨hConnected, by decide +kernel, by decide +kernel, login, entry, answer, hLogin, hEntry,
    hAnswer, hSends⟩

end Account
end SessionReplay
