import SessionReplay.Report.Publish
import Mathlib.Data.List.Forall2

/-!
# Reports that were accepted

* `Host.Accepts`: requests that are answered with success, one after the other.
* `Account.Posts`: the request that posts a report.
* `Account.Delivered`: one login, and then all reports in their order, everything with success.
* `Account.delivered_of_publish`, `delivered_of_publishResults`: nothing less is a success of
  publishing.
-/

namespace SessionReplay

open Net

namespace Host

variable {h h' : Host} {answer : Response}

/-- The host behind requests that reached a server. -/
def behind (h : Host) (requests : List Request) : Host := { h with sent := h.sent ++ requests }

@[simp] theorem behind_nil (h : Host) : h.behind [] = h := by simp [behind]

@[simp] theorem behind_behind (h : Host) (first second : List Request) :
    (h.behind first).behind second = h.behind (first ++ second) := by
  simp [behind]

/-- The network answers the requests with success, each behind those before it. -/
def Accepts (h : Host) : List Request → Prop
  | [] => True
  | request :: rest =>
    (∃ answer, h.network h.sent request = some answer ∧ answer.isSuccess = true) ∧
      (h.behind [request]).Accepts rest

theorem answered_of_send {request : Request} (hSend : h.send request = (.ok answer, h')) :
    h.network h.sent request = some answer ∧ h' = h.behind [request] := by
  unfold send at hSend
  split at hSend
  · cases hSend
  · split at hSend
    · cases hSend
    · next hAnswer =>
      cases hSend
      exact ⟨hAnswer, rfl⟩

/-- What it takes to be accepted at an address. -/
theorem accepted_eq_ok {address : String} {request : Url → Request}
    (hOk : accepted (h.sendTo address request) = (.ok answer, h')) :
    ∃ url, Url.ofText? address = some url ∧ h.network h.sent (request url) = some answer ∧
      answer.isSuccess = true ∧ h' = h.behind [request url] := by
  rcases hSent : h.sendTo address request with ⟨_ | received, between⟩
  · rw [hSent] at hOk
    cases hOk
  · rw [hSent] at hOk
    simp only [accepted] at hOk
    split at hOk
    · next hSuccess =>
      cases hOk
      unfold sendTo at hSent
      split at hSent
      · cases hSent
      · next url hUrl =>
        obtain ⟨hAnswer, hBehind⟩ := answered_of_send hSent
        exact ⟨url, hUrl, hAnswer, hSuccess, hBehind⟩
    · cases hOk

end Host

namespace Account

variable {a : Account} {h h' : Host} {token form : String} {reports : List TestReport}

/-- The request that posts a report as an entry of a form. -/
def Posts (a : Account) (token form : String) (report : TestReport) (request : Request) : Prop :=
  ∃ url, Url.ofText? (a.entryAddress form) = some url ∧
    request = postRequest token (reportEntry report) url

/-- The host behind a login and the posts of all reports, which were all accepted. The token is
what the login was answered with. -/
inductive Delivered (a : Account) (reports : List TestReport) (h : Host) : Host → Prop where
  | intro {form : String} {url : Url} {answer : Response} {posts : List Request}
    (hForm : a.resultsForm = some form) (hUrl : Url.ofText? a.loginAddress = some url)
    (hToken : h.network h.sent (a.loginRequest url) = some answer)
    (hPosts : List.Forall₂ (a.Posts answer.text form) reports posts)
    (hAccepts : h.Accepts (a.loginRequest url :: posts)) :
    Delivered a reports h (h.behind (a.loginRequest url :: posts))

theorem accepts_of_postReports {summary total : PublishSummary}
    (hOk : a.postReports token form summary reports h = (.ok total, h')) :
    ∃ posts, List.Forall₂ (a.Posts token form) reports posts ∧ h.Accepts posts ∧
      h' = h.behind posts := by
  induction reports generalizing summary h with
  | nil =>
    cases hOk
    exact ⟨[], .nil, trivial, (Host.behind_nil _).symm⟩
  | cons report rest ih =>
    rcases hPost : a.postEntry token form (reportEntry report) h with ⟨_ | _, between⟩
    · simp only [postReports, hPost] at hOk
      cases hOk
    · simp only [postReports, hPost] at hOk
      obtain ⟨posts, hPosts, hAccepts, rfl⟩ := ih hOk
      simp only [postEntry] at hPost
      rcases hAccepted : Host.accepted (h.sendTo (a.entryAddress form)
        (postRequest token (reportEntry report))) with ⟨_ | answer, received⟩
      · simp [hAccepted, Except.map] at hPost
      · simp only [hAccepted, Prod.mk.injEq] at hPost
        obtain ⟨url, hUrl, hAnswer, hSuccess, hBehind⟩ := Host.accepted_eq_ok hAccepted
        obtain rfl := hPost.2
        subst hBehind
        exact ⟨_ :: posts, .cons ⟨url, hUrl, rfl⟩ hPosts, ⟨⟨answer, hAnswer, hSuccess⟩, hAccepts⟩,
          by simp⟩

/-- Publishing succeeds only if there is a form, and everything that is sent is accepted. -/
theorem delivered_of_publish {summary : PublishSummary}
    (hOk : a.publish reports h = (.ok summary, h')) : a.Delivered reports h h' := by
  cases hForm : a.resultsForm with
  | none =>
    simp only [publish, hForm] at hOk
    cases hOk
  | some form =>
    rcases hLogin : a.login h with ⟨_ | token, between⟩
    · simp only [publish, hForm, hLogin] at hOk
      cases hOk
    · simp only [publish, hForm, hLogin] at hOk
      obtain ⟨posts, hPosts, hAccepts, rfl⟩ := accepts_of_postReports hOk
      simp only [login] at hLogin
      rcases hAccepted : Host.accepted (h.sendTo a.loginAddress a.loginRequest) with
        ⟨_ | answer, received⟩
      · simp [hAccepted, Except.map] at hLogin
      · simp only [hAccepted, Except.map, Prod.mk.injEq, Except.ok.injEq] at hLogin
        obtain ⟨url, hUrl, hAnswer, hSuccess, hBehind⟩ := Host.accepted_eq_ok hAccepted
        obtain ⟨rfl, rfl⟩ := hLogin
        subst hBehind
        rw [Host.behind_behind]
        exact .intro hForm hUrl hAnswer hPosts ⟨⟨answer, hAnswer, hSuccess⟩, hAccepts⟩

/-- The results of a run are published only if they can be read, and all of their reports are
accepted. -/
theorem delivered_of_publishResults {files : RunFiles} {runId : String} {summary : PublishSummary}
    (hOk : (a.publishResults files runId h).1 = .ok summary) :
    ∃ results h', RunResults.load h.disk files.results = .ok results ∧
      a.Delivered (results.reports h.disk files.screenshots runId h.now.1) h.now.2 h' ∧
      (a.publishResults files runId h).2.sent = h'.sent := by
  rcases hLoaded : a.publishLoaded files runId h with ⟨outcome, h'⟩
  simp only [publishResults, hLoaded] at hOk ⊢
  unfold publishLoaded at hLoaded
  cases hResults : RunResults.load h.disk files.results with
  | error failure =>
    rw [hResults] at hLoaded
    cases hLoaded
    cases hOk
  | ok results =>
    rw [hResults, hOk] at hLoaded
    exact ⟨results, h', rfl, delivered_of_publish hLoaded, rfl⟩

end Account
end SessionReplay
