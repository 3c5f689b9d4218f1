import SessionReplay.Report.Publish

/-!
# Publishing leaves files alone

Nothing that is sent to the reporting system changes the disk; only the purge behind it does.

* `Account.publishResults_disk`: the disk after publishing is the purged one.
-/

namespace SessionReplay

open Net

namespace Host

@[simp] theorem now_disk (h : Host) : h.now.2.disk = h.disk := rfl

@[simp] theorem send_disk (h : Host) (r : Request) : (h.send r).2.disk = h.disk := by
  unfold send
  split
  · rfl
  · split <;> rfl

@[simp] theorem sendTo_disk (h : Host) (address : String) (request : Url → Request) :
    (h.sendTo address request).2.disk = h.disk := by
  unfold sendTo
  split
  · rfl
  · exact h.send_disk _

@[simp] theorem accepted_disk (result : Except ServiceFailure Response × Host) :
    (accepted result).2.disk = result.2.disk := by
  unfold accepted
  split
  · split <;> rfl
  · rfl

end Host

namespace Account

@[simp] theorem login_disk (a : Account) (h : Host) : (a.login h).2.disk = h.disk := by
  simp [login]

@[simp] theorem postEntry_disk (a : Account) (token form : String) (entry : Json) (h : Host) :
    (a.postEntry token form entry h).2.disk = h.disk := by
  simp [postEntry]

@[simp] theorem postReports_disk (a : Account) (token form : String) (summary : PublishSummary)
    (reports : List TestReport) (h : Host) :
    (a.postReports token form summary reports h).2.disk = h.disk := by
  induction reports generalizing summary h with
  | nil => rfl
  | cons r rest ih =>
    have hPost := a.postEntry_disk token form (reportEntry r) h
    unfold postReports
    split
    · next hOk =>
      rw [hOk] at hPost
      rw [ih, hPost]
    · next hError =>
      rw [hError] at hPost
      exact hPost

@[simp] theorem publish_disk (a : Account) (reports : List TestReport) (h : Host) :
    (a.publish reports h).2.disk = h.disk := by
  have hLogin := a.login_disk h
  unfold publish
  split
  · rfl
  · split
    · next hOk =>
      rw [hOk] at hLogin
      rw [postReports_disk, hLogin]
    · next hError =>
      rw [hError] at hLogin
      exact hLogin

@[simp] theorem publishLoaded_disk (a : Account) (files : RunFiles) (runId : String) (h : Host) :
    (a.publishLoaded files runId h).2.disk = h.disk := by
  unfold publishLoaded
  split
  · rfl
  · simp

/-- The disk after publishing is the purged one, whatever comes of it. -/
theorem publishResults_disk (a : Account) (files : RunFiles) (runId : String) (h : Host) :
    (a.publishResults files runId h).2.disk =
      (h.disk.purge files.results files.reports).2 := by
  simp [publishResults]

end Account
end SessionReplay
