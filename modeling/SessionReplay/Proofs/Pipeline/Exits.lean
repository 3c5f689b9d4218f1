import SessionReplay.Pipeline.Report
import SessionReplay.Proofs.Pipeline.Reports
import SessionReplay.Proofs.Report.Clearing
import SessionReplay.Proofs.Report.Delivery

/-!
# How a report stage ends

* `Pipeline.mergerStart`: the disk on which the merger is started, if it is.
* `Pipeline.Tidied`: results and reports of a run may be gone, folders above the results may have
  been made, and nothing else has changed.
* `Pipeline.merge_tidied`: before the merger, and behind it, a report stage does nothing else.
* `Pipeline.report_purges`: what holds at every end of a report stage, and what a success takes.
-/

namespace SessionReplay.Pipeline

open Storage

variable {p : Pipeline} {d d' : Disk}

/-! ## The files that a report stage touches -/

/-- The disk on which the merger is started, and the reports that it is given, if it is started. -/
def mergerStart (p : Pipeline) (d : Disk) (strays : Strays := .none) :
    Option (Disk × List String) :=
  match p.removeStale d with
  | .error _ => none
  | .ok d =>
    match p.reportFiles d strays with
    | .error _ | .ok [] => none
    | .ok files => if (p.mergerInvocation files).holdsZero then none else some (d, files)

/-- The merger is started with the reports that are merged. -/
theorem mergerStart_eq {strays : Strays} (hStale : p.removeStale d = .ok d') :
    p.mergerStart d strays =
      if p.mergedFiles d strays = [] ∨ (p.mergerInvocation (p.mergedFiles d strays)).holdsZero then
        none
      else some (d', p.mergedFiles d strays) := by
  cases hFiles : p.reportFiles d' strays with
  | error t => simp [mergerStart, mergedFiles, hStale, hFiles]
  | ok files => cases files <;> simp [mergerStart, mergedFiles, hStale, hFiles]

/-- Nothing has changed but that the results and reports of a run may be gone, and that folders
above the results may have been made. -/
def Tidied (p : Pipeline) (d d' : Disk) : Prop :=
  d.Tidies (d.IsPurged p.resultsPath p.reportsDir) (d.IsPlaceOf (Path.above p.resultsPath)) d'

theorem removeStale_tidied (h : p.removeStale d = .ok d') : p.Tidied d d' := by
  rcases removeStale_eq_ok.1 h with ⟨-, hRemove⟩ | ⟨-, rfl⟩
  · exact (Disk.tidies_of_remove hRemove).mono (fun _ => .inl) fun _ hNone => hNone.elim
  · exact .refl _ _ d'

/-- Folders above the results are made, some of them or all that are missing. -/
theorem makeFolders_tidied (p : Pipeline) (d : Disk) :
    d.Tidies (fun _ => False) (d.IsPlaceOf (Path.above p.resultsPath))
      (d.makeFolders ((Path.parent? p.resultsPath).getD "")).2 := by
  cases hUp : Path.parent? p.resultsPath with
  | none => exact .refl _ _ d
  | some up =>
    have hAbove : Path.above p.resultsPath = Path.upwards up := by rw [Path.above_eq, hUp]
    rw [hAbove]
    exact d.makeFolders_tidies up

/-- What goes behind changes of this kind is one more of them. -/
theorem Tidied.trans {d'' : Disk} (h : p.Tidied d d')
    (hGone : d'.Tidies (d'.IsPurged p.resultsPath p.reportsDir) (fun _ => False) d'') :
    p.Tidied d d'' := by
  refine Disk.Tidies.trans h (hGone.mono ?_ fun _ => id) fun _ hNone => hNone.elim
  intro place hPurged
  rwa [Disk.IsPurged, Disk.locate_eq_of_home h.home, Disk.locate_eq_of_home h.home] at hPurged

theorem Tidied.refl (p : Pipeline) (d : Disk) : p.Tidied d d := Disk.Tidies.refl _ _ d

/-! ## Before the merger and behind it -/

/-- Storing the results and purging them leaves at most folders. -/
theorem storeResults_tidied {text : String}
    (hClears : (p.storeResults text d).2.clears p.resultsPath p.reportsDir = true) :
    p.Tidied d ((p.storeResults text d).2.purge p.resultsPath p.reportsDir).2 := by
  have hMade : p.Tidied d (d.makeFolders ((Path.parent? p.resultsPath).getD "")).2 :=
    (p.makeFolders_tidied d).mono (fun _ hNone => hNone.elim) fun _ => id
  rcases hFolders : d.makeFolders ((Path.parent? p.resultsPath).getD "") with ⟨_ | _, made⟩
  · rw [hFolders] at hMade
    simp only [storeResults, store, hFolders]
    exact hMade.trans (made.purge_tidies _ _)
  · rw [hFolders] at hMade
    cases hWrite : made.writeText p.resultsPath text with
    | error fault =>
      simp only [storeResults, store, hFolders, hWrite]
      exact hMade.trans (made.purge_tidies _ _)
    | ok written =>
      simp only [storeResults, store, hFolders, hWrite] at hClears ⊢
      exact hMade.trans (Disk.write_purge_tidies hWrite hClears)

/-- Behind the merger there is nothing but the results to store, if it succeeded. -/
theorem mergeFiles_tidied {programs : Programs} {files : List String}
    (hZero : (p.mergerInvocation files).holdsZero = false)
    (hClears : Disk.clears (p.mergeFiles programs files d).2 p.resultsPath p.reportsDir = true) :
    p.Tidied (programs (p.mergerInvocation files).launch p.limit d).2
      (Disk.purge (p.mergeFiles programs files d).2 p.resultsPath p.reportsDir).2 := by
  have hPurge (d : Disk) : p.Tidied d (d.purge p.resultsPath p.reportsDir).2 :=
    (Tidied.refl p d).trans (d.purge_tidies _ _)
  rcases hRun : programs (p.mergerInvocation files).launch p.limit d with ⟨finish, left⟩
  cases finish with
  | notStarted reason | timedOut =>
    simp only [mergeFiles, Invocation.run, hZero, hRun]
    exact hPurge left
  | ended code bytes =>
    have hOutput : (p.mergerInvocation files).run programs p.limit d =
        (.ok ⟨code, (p.mergerInvocation files).captured bytes⟩, left) := by
      simp only [Invocation.run, hZero, hRun]
      rfl
    generalize ProgramOutput.mk code _ = output at hOutput
    cases hSuccess : output.isSuccess with
    | false =>
      have hMerge : (p.mergeFiles programs files d).2 = left := by
        simp [mergeFiles, hOutput, hSuccess]
      rw [hMerge]
      exact hPurge left
    | true =>
      have hMerge : (p.mergeFiles programs files d).2 = (p.storeResults output.output left).2 := by
        simp [mergeFiles, hOutput, hSuccess]
      rw [hMerge] at hClears ⊢
      exact storeResults_tidied hClears

/-- **What a report stage changes.** Before the merger is started, and behind it, results and
reports of a run go and folders above the results come, and nothing else changes. -/
theorem merge_tidied {programs : Programs}
    (hClears : Disk.clears (p.merge programs d).2 p.resultsPath p.reportsDir = true) :
    let after := (Disk.purge (p.merge programs d).2 p.resultsPath p.reportsDir).2
    match p.mergerStart d with
    | none => p.Tidied d after
    | some (before, files) =>
      p.Tidied d before ∧
        p.Tidied (programs (p.mergerInvocation files).launch p.limit before).2 after := by
  rcases p.merge_eq d .none with ⟨t, hStale, hMerge⟩ | ⟨before, hStale, hMerged⟩
  · have hStart : p.mergerStart d = none := by rw [mergerStart, hStale]
    rw [hStart, hMerge]
    exact (Tidied.refl p d).trans (d.purge_tidies _ _)
  · have hBefore := removeStale_tidied hStale
    rw [mergerStart_eq hStale]
    rcases hMerged with ⟨t, hNone, hMerge⟩ | ⟨hSome, -, hMerge⟩
    · rw [if_pos (.inl hNone), hMerge]
      exact hBefore.trans (before.purge_tidies _ _)
    · rw [hMerge] at hClears ⊢
      cases hZero : (p.mergerInvocation (p.mergedFiles d)).holdsZero with
      | true =>
        have hFiles : (p.mergeFiles programs (p.mergedFiles d) before).2 = before := by
          simp [mergeFiles, Invocation.run, hZero]
        rw [if_pos (.inr rfl), hFiles]
        exact hBefore.trans (before.purge_tidies _ _)
      | false =>
        rw [if_neg (by simp [hSome])]
        exact ⟨hBefore, mergeFiles_tidied hZero hClears⟩

/-! ## A success -/

/-- A report stage is a success only if the merger was one, and everything was delivered. -/
theorem delivered_of_report {programs : Programs} {j : Job} {h : Host} {result : StageResult}
    (hOk : (p.report programs j h).1 = .ok result) :
    ∃ count merged account results h', p.merge programs h.disk = (.ok count, merged) ∧
      p.account = some account ∧ RunResults.load merged p.resultsPath = .ok results ∧
      account.Delivered (results.reports merged p.screenshotsDir j.runId (h.clock h.readings))
        { h with disk := merged, readings := h.readings + 1 } h' ∧
      (p.report programs j h).2.sent = h'.sent := by
  rcases hMerge : p.merge programs h.disk with ⟨_ | count, merged⟩
  · simp only [report, hMerge] at hOk
    cases hOk
  · simp only [report, hMerge] at hOk ⊢
    cases hAccount : p.account with
    | none =>
      simp only [publish, hAccount] at hOk
      cases hOk
    | some account =>
      simp only [publish, hAccount] at hOk ⊢
      rcases hPublish : account.publishResults p.runFiles j.runId { h with disk := merged } with
        ⟨_ | summary, last⟩
      · simp only [hPublish] at hOk
        cases hOk
      · obtain ⟨results, h', hLoad, hDelivered, hSent⟩ :=
          Account.delivered_of_publishResults (congrArg Prod.fst hPublish)
        rw [hPublish] at hSent
        exact ⟨count, merged, account, results, h', rfl, rfl, hLoad, hDelivered, hSent⟩

/-! ## Every end -/

/-- **Every end of a report stage.** Where the files that the purge tries to remove can be removed,
the results are no file any more and the folder of reports holds none of the run. Before the
merger is started, and behind it, nothing else changes but that folders above the results may be
made. The stage is a success only if the merger was one and all reports of the results were posted
and accepted. -/
theorem report_purges (p : Pipeline) (programs : Programs) (j : Job) (h : Host)
    (hClears : Disk.clears (p.merge programs h.disk).2 p.resultsPath p.reportsDir = true) :
    let d := (p.report programs j h).2.disk
    d.isFile p.resultsPath = false ∧
    (∀ folder middle, d.find p.reportsDir = .ok (folder, .folder) →
      d.holdsFile (folder ++ ["mochawesome" ++ middle ++ ".json"]) = false) ∧
    (match p.mergerStart h.disk with
      | none => p.Tidied h.disk d
      | some (before, files) =>
        p.Tidied h.disk before ∧
          p.Tidied (programs (p.mergerInvocation files).launch p.limit before).2 d) ∧
    ∀ result, (p.report programs j h).1 = .ok result →
      ∃ count merged account results h', p.merge programs h.disk = (.ok count, merged) ∧
        p.account = some account ∧ RunResults.load merged p.resultsPath = .ok results ∧
        account.Delivered (results.reports merged p.screenshotsDir j.runId (h.clock h.readings))
          { h with disk := merged, readings := h.readings + 1 } h' ∧
        (p.report programs j h).2.sent = h'.sent := by
  intro d
  have hDisk : d = (Disk.purge (p.merge programs h.disk).2 p.resultsPath p.reportsDir).2 :=
    p.report_disk programs j h
  refine ⟨?_, ?_, ?_, fun result => delivered_of_report⟩
  · rw [hDisk]
    exact Disk.not_isFile_of_clears hClears
  · rw [hDisk]
    intro folder middle hFolder
    exact Disk.not_holdsFile_of_clears hClears hFolder (isRunReport_iff.2 ⟨middle, rfl⟩)
  · rw [hDisk]
    exact merge_tidied hClears

/-- A report that was merged is gone although its results could not be published. -/
theorem report_purges_unpublished :
    let h : Host := { disk := diskWith "mochawesome-1.json", clock := fun _ => ⟨0, 0⟩ }
    let job : Job := ⟨⟨0⟩, "login", "run", .null, ⟨0, 0⟩⟩
    let d := (standard.report oneReport job h).2.disk
    Disk.clears (standard.merge oneReport h.disk).2 standard.resultsPath standard.reportsDir = true ∧
      d.find standard.reportsDir = .ok (["cypress", "reports"], .folder) ∧
      d.holdsFile ["cypress", "reports", "mochawesome-1.json"] = false ∧
      d.isFile standard.resultsPath = false := by
  intro h job d
  have hClears : Disk.clears (standard.merge oneReport h.disk).2 standard.resultsPath
      standard.reportsDir = true := by decide +kernel
  have hFolder : d.find standard.reportsDir = .ok (["cypress", "reports"], .folder) := by
    decide +kernel
  obtain ⟨hResults, hReports, -⟩ := report_purges standard oneReport job h hClears
  exact ⟨hClears, hFolder, hReports ["cypress", "reports"] "-1" hFolder, hResults⟩

end SessionReplay.Pipeline
