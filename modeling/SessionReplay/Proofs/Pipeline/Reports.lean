import SessionReplay.Pipeline.Run
import SessionReplay.Proofs.Conversion.Names
import SessionReplay.Proofs.Report.Publish
import SessionReplay.Proofs.Report.Purge
import SessionReplay.Proofs.Storage.Strays

/-!
# Reports that are merged again

* `Pipeline.mergedFiles`: the reports that are given to the merger.
* `StageCall`, `Pipeline.after`: the disk after stage calls.
* `Pipeline.purging`: all removals at the ends of the report stages succeed.
* `Pipeline.report_merged_again`: which reports of a run are given to the merger again.
-/

namespace SessionReplay

open Storage

/-! ## Names of reports -/

namespace Path

/-- A name with an extension ends with it, behind a dot. -/
theorem suffix_of_extension {name ext : String} (h : isName name = true)
    (hExt : extension? name = some ext) : '.' :: ext.toList <:+ name.toList := by
  rw [extension?_of_isPlain (isPlain_of_isName h)] at hExt
  obtain ⟨base, -, -, rfl⟩ := splitName_eq_some.1 hExt
  exact ⟨base.toList, by simp⟩

theorem join_inj {folder a b : String} (ha : isAbsolute a = false) (hb : isAbsolute b = false)
    (h : join folder a = join folder b) : a = b := by
  simp only [join, ha, hb, Bool.false_or] at h
  split at h
  · exact h
  · split at h
    · exact (String.append_right_inj _).1 h
    · exact (String.append_right_inj _).1 h

theorem isAbsolute_of_isName {name : String} (h : isName name = true) :
    isAbsolute name = false :=
  isAbsolute_of_not_mem (not_mem_of_isName h)

end Path

/-- A report that is merged is one that a run leaves if its name begins like theirs. -/
theorem isRunReport_eq {name : String} (h : isName name = true)
    (hReport : Pipeline.isReportFile name = true) :
    isRunReport name = "mochawesome".toList.isPrefixOf name.toList := by
  have hSuffix := Path.suffix_of_extension h (beq_iff_eq.1 hReport)
  have hJson : ".json".toList.isSuffixOf name.toList = true := by
    simpa using hSuffix
  rw [isRunReport, hJson, Bool.and_true]

namespace Pipeline

/-! ## The reports that are merged -/

theorem removeStale_eq_ok {p : Pipeline} {d d' : Disk} : p.removeStale d = .ok d' ↔
    d.has p.resultsPath = true ∧ d.remove p.resultsPath = .ok d' ∨
      d.has p.resultsPath = false ∧ d' = d := by
  cases hHas : d.has p.resultsPath with
  | false => simp [removeStale, hHas, eq_comm]
  | true =>
    cases hRemove : d.remove p.resultsPath <;>
      simp [removeStale, hHas, hRemove, Except.mapError]

theorem removeStale_eq_error {p : Pipeline} {d : Disk} {t : Trouble} :
    p.removeStale d = .error t ↔ d.has p.resultsPath = true ∧ ∃ fault,
      d.remove p.resultsPath = .error fault ∧ t = failedTo "remove stale" p.resultsPath fault := by
  cases hHas : d.has p.resultsPath with
  | false => simp [removeStale, hHas]
  | true =>
    cases hRemove : d.remove p.resultsPath <;>
      simp [removeStale, hHas, hRemove, Except.mapError, eq_comm]

/-- The reports that are given to the merger by a report stage that begins on a disk. -/
def mergedFiles (p : Pipeline) (d : Disk) (strays : Strays := .none) : List String :=
  match p.removeStale d with
  | .error _ => []
  | .ok d =>
    match p.reportFiles d strays with
    | .error _ => []
    | .ok files => files

/-- The merger is started with the reports that are merged, or not at all if there are none. -/
theorem merge_eq (p : Pipeline) (d : Disk) (strays : Strays) :
    (∃ t, p.removeStale d = .error t ∧ ∀ programs, p.merge programs d strays = (.error t, d)) ∨
    ∃ before, p.removeStale d = .ok before ∧
      ((∃ t, p.mergedFiles d strays = [] ∧
        ∀ programs, p.merge programs d strays = (.error t, before)) ∨
      (p.mergedFiles d strays ≠ [] ∧ p.reportFiles before strays = .ok (p.mergedFiles d strays) ∧
        ∀ programs, p.merge programs d strays =
          p.mergeFiles programs (p.mergedFiles d strays) before)) := by
  unfold mergedFiles merge
  cases p.removeStale d with
  | error t => exact .inl ⟨t, rfl, fun _ => rfl⟩
  | ok before =>
    refine .inr ⟨before, rfl, ?_⟩
    dsimp only
    cases p.reportFiles before strays with
    | error t => exact .inl ⟨t, rfl, fun _ => rfl⟩
    | ok files =>
      cases files with
      | nil => exact .inl ⟨_, rfl, fun _ => rfl⟩
      | cons file files => exact .inr ⟨by simp, rfl, fun _ => rfl⟩

theorem merge_of_reportFiles {p : Pipeline} {programs : Programs} {d before : Disk}
    {strays : Strays} {file : String} {files : List String} (hStale : p.removeStale d = .ok before)
    (hFiles : p.reportFiles before strays = .ok (file :: files)) :
    p.merge programs d strays = p.mergeFiles programs (file :: files) before := by
  rw [merge, hStale]
  simp only [hFiles]

/-- The files that are merged are the reports in the folder, in the order of their names. -/
theorem names_of_reportFiles {p : Pipeline} {d : Disk} {strays : Strays} {files : List String}
    (h : p.reportFiles d strays = .ok files) : ∃ names : List EntryName,
      files = names.map (EntryName.shown p.reportsDir) ∧
      (names.Pairwise fun a b => a.bytes < b.bytes) ∧
      ∀ name, name ∈ names ↔ d.ListsBeside strays p.reportsDir name ∧ isReport name = true := by
  unfold reportFiles reportNames at h
  split at h
  · next names hNames =>
    obtain rfl := Except.ok.inj h
    refine ⟨_, rfl, EntryName.pairwise_sort ((Disk.nodup_of_listBeside hNames).filter _),
      fun name => ?_⟩
    simp [Disk.ListsBeside, hNames]
  · next hNone =>
    obtain rfl := Except.ok.inj h
    exact ⟨[], rfl, .nil, by simp [Disk.ListsBeside, hNone]⟩
  · cases h

/-- Reports that are listed in order are merged in this order. -/
theorem reportFiles_of_listed {p : Pipeline} {d : Disk} {strays : Strays} {names : List EntryName}
    (hList : d.listBeside strays p.reportsDir = .ok names)
    (hReports : ∀ name ∈ names, isReport name = true)
    (hOrder : names.Pairwise fun a b => a.bytes ≤ b.bytes) :
    p.reportFiles d strays = .ok (names.map (EntryName.shown p.reportsDir)) := by
  rw [reportFiles, reportNames, hList]
  dsimp only
  rw [List.filter_eq_self.2 hReports, EntryName.sort_of_pairwise hOrder]
  rfl

theorem mem_reportFiles {p : Pipeline} {d : Disk} {files : List String}
    (h : p.reportFiles d = .ok files) (path : String) :
    path ∈ files ↔ ∃ name, d.Lists p.reportsDir name ∧ isReportFile name = true ∧
      path = Path.join p.reportsDir name := by
  obtain ⟨names, rfl, -, hNames⟩ := names_of_reportFiles h
  simp only [List.mem_map, hNames, Disk.listsBeside_none]
  constructor
  · rintro ⟨_, ⟨⟨name, rfl, hLists⟩, hReport⟩, rfl⟩
    exact ⟨name, hLists, hReport, EntryName.shown_text p.reportsDir name⟩
  · rintro ⟨name, hLists, hReport, rfl⟩
    exact ⟨.text name, ⟨⟨name, rfl, hLists⟩, hReport⟩, EntryName.shown_text p.reportsDir name⟩

theorem lists_of_removeStale {p : Pipeline} {d d' : Disk} (h : p.removeStale d = .ok d')
    {folder name : String} (hLists : d'.Lists folder name) : d.Lists folder name := by
  rcases removeStale_eq_ok.1 h with ⟨-, hRemove⟩ | ⟨-, rfl⟩
  · obtain ⟨found, bytes, -, hFile, hErase⟩ := Disk.eq_erase_of_remove hRemove
    rw [hErase] at hLists
    obtain ⟨place, hFolder, -⟩ := Disk.lists_iff.1 hLists
    exact ((Disk.lists_erase hFile ((Disk.find_folder_erase hFile).1 hFolder)).1 hLists).1
  · exact hLists

/-- A report is merged if it is in the folder when the results of an earlier run are removed. -/
theorem mem_mergedFiles {p : Pipeline} {d : Disk} {name : String}
    (hName : Path.isAbsolute name = false) :
    Path.join p.reportsDir name ∈ p.mergedFiles d ↔
      ∃ d', p.removeStale d = .ok d' ∧ d'.Lists p.reportsDir name ∧ isReportFile name = true := by
  unfold mergedFiles
  cases hStale : p.removeStale d with
  | error t => simp
  | ok d' =>
    dsimp only
    cases hFiles : p.reportFiles d' with
    | error t =>
      have hNone : ¬ d'.Lists p.reportsDir name := by
        rintro ⟨names, hList, -⟩
        simp [reportFiles, reportNames, Disk.listBeside, hList, Except.map] at hFiles
      simp [hNone]
    | ok files =>
      dsimp only
      rw [mem_reportFiles hFiles]
      constructor
      · rintro ⟨found, hLists, hReport, hJoin⟩
        have hFound := Path.isAbsolute_of_isName hLists.isName
        obtain rfl := Path.join_inj hName hFound hJoin
        exact ⟨d', rfl, hLists, hReport⟩
      · rintro ⟨found, hFound, hLists, hReport⟩
        obtain rfl := Except.ok.inj hFound
        exact ⟨name, hLists, hReport, rfl⟩

/-! ## Stage calls -/

/-- The disk at the end of a report stage is that after merging, purged. -/
theorem report_disk (p : Pipeline) (programs : Programs) (j : Job) (h : Host) :
    (p.report programs j h).2.disk =
      ((p.merge programs h.disk).2.purge p.resultsPath p.reportsDir).2 := by
  unfold report
  split
  · next hMerge => simp [hMerge, purge]
  · next hMerge =>
    unfold publish
    split
    · simp [hMerge, purge]
    · simp [hMerge, Account.publishResults_disk, runFiles]

end Pipeline

/-- A stage call with all that it may depend on besides the disk. -/
structure StageCall where
  job : Job
  call : Call
  programs : Programs
  /-- The clock and the network. The disk of this host does not count. -/
  surroundings : Host

namespace Pipeline

/-- The disk after stage calls, each made on what the ones before it left. -/
def after (p : Pipeline) : Disk → List StageCall → Disk
  | d, [] => d
  | d, c :: calls =>
    p.after (p.call c.programs c.job { c.surroundings with disk := d } c.call).2.disk calls

/-- Whether all removals that the report stages try when they purge succeed. -/
def purging (p : Pipeline) : Disk → List StageCall → Bool
  | _, [] => true
  | d, c :: calls =>
    (c.call != .report || (p.merge c.programs d).2.purges p.resultsPath p.reportsDir) &&
      p.purging (p.after d [c]) calls

theorem after_report (p : Pipeline) (d : Disk) {c : StageCall} (hReport : c.call = .report) :
    p.after d [c] = ((p.merge c.programs d).2.purge p.resultsPath p.reportsDir).2 := by
  obtain ⟨job, call, programs, surroundings⟩ := c
  obtain rfl : call = .report := hReport
  exact p.report_disk programs job { surroundings with disk := d }

theorem purging_cons {p : Pipeline} {d : Disk} {c : StageCall} {calls : List StageCall}
    (h : p.purging d (c :: calls) = true) :
    (c.call = .report → (p.merge c.programs d).2.purges p.resultsPath p.reportsDir = true) ∧
      p.purging (p.after d [c]) calls = true := by
  simp only [purging, Bool.and_eq_true, Bool.or_eq_true, bne_iff_ne] at h
  exact ⟨fun hReport => h.1.resolve_left (fun hNe => hNe hReport), h.2⟩

/-- What the folder of reports lists after a report stage. -/
theorem lists_after_report {p : Pipeline} {d : Disk} {c : StageCall} (hReport : c.call = .report)
    (hPurging : p.purging d [c] = true) (name : String) :
    (p.after d [c]).Lists p.reportsDir name ↔
      (p.merge c.programs d).2.Lists p.reportsDir name ∧ isRunReport name = false ∧
        ¬ (p.merge c.programs d).2.IsEntry p.resultsPath p.reportsDir name := by
  rw [after_report p d hReport]
  exact Disk.lists_purge ((purging_cons hPurging).1 hReport) name

/-! ## Reports that are merged again -/

/-- A call of another stage than the report puts a file into the folder of reports. -/
def AppearsIn (p : Pipeline) (d : Disk) (calls : List StageCall) (name : String) : Prop :=
  ∃ before c rest, calls = before ++ c :: rest ∧ c.call ≠ .report ∧
    ¬ (p.after d before).Lists p.reportsDir name ∧
      (p.after d (before ++ [c])).Lists p.reportsDir name

/-- A report of a run that is in the folder was put there by a call of another stage. -/
theorem appearsIn_of_lists {p : Pipeline} {name : String} (hRun : isRunReport name = true)
    {calls : List StageCall} {d : Disk} (hPurging : p.purging d calls = true)
    (hBefore : ¬ d.Lists p.reportsDir name)
    (hAfter : (p.after d calls).Lists p.reportsDir name) : p.AppearsIn d calls name := by
  induction calls generalizing d with
  | nil => exact absurd hAfter hBefore
  | cons c calls ih =>
    obtain ⟨hPurges, hRest⟩ := purging_cons hPurging
    by_cases hNext : (p.after d [c]).Lists p.reportsDir name
    · refine ⟨[], c, calls, rfl, fun hReport => ?_, hBefore, hNext⟩
      rw [after_report p d hReport, Disk.lists_purge (hPurges hReport), hRun] at hNext
      exact Bool.noConfusion hNext.2.1
    · obtain ⟨before, c', rest, rfl, hCall, hAbsent, hPresent⟩ := ih hRest hNext hAfter
      exact ⟨c :: before, c', rest, rfl, hCall, hAbsent, hPresent⟩

/-- The names of the reports of a run begin like this. -/
def beginsAsRun (name : String) : Bool := "mochawesome".toList.isPrefixOf name.toList

theorem not_isAbsolute_of_beginsAsRun {name : String} (h : beginsAsRun name = true) :
    Path.isAbsolute name = false := by
  obtain ⟨rest, hRest⟩ := List.isPrefixOf_iff_prefix.1 h
  simp [Path.isAbsolute, ← hRest]

/-- Nothing is removed before reports are merged once a report stage has purged its files. -/
theorem removeStale_after_report {p : Pipeline} {d : Disk} {c : StageCall}
    (hReport : c.call = .report) (hPurging : p.purging d [c] = true) :
    p.removeStale (p.after d [c]) = .ok (p.after d [c]) := by
  have hGone := Disk.not_has_of_purges ((purging_cons hPurging).1 hReport)
  rw [← after_report p d hReport] at hGone
  exact removeStale_eq_ok.2 (.inr ⟨hGone, rfl⟩)

/-- **Which reports are given to the merger again** after a report stage all of whose removals
succeed. A report whose name begins as those of a run do has to be put into the folder again by
another stage. Of what else the folder lists after merging, all reports but the file of results
are merged by the very next report stage. -/
theorem report_merged_again (p : Pipeline) (d : Disk) (first : StageCall)
    (between : List StageCall) (hReport : first.call = .report)
    (hPurging : p.purging d (first :: between) = true) :
    (∀ name, beginsAsRun name = true →
      Path.join p.reportsDir name ∈ p.mergedFiles (p.after d (first :: between)) →
        p.AppearsIn (p.after d [first]) between name) ∧
    (∀ name, (p.merge first.programs d).2.Lists p.reportsDir name →
      (Path.join p.reportsDir name ∈ p.mergedFiles (p.after d [first]) ↔
        isReportFile name = true ∧ beginsAsRun name = false ∧
          ¬ (p.merge first.programs d).2.IsEntry p.resultsPath p.reportsDir name)) := by
  obtain ⟨hPurges, hRest⟩ := purging_cons hPurging
  have hFirst : p.purging d [first] = true := by
    simpa [purging, hReport] using hPurges
  constructor
  · intro name hBegins hMerged
    obtain ⟨d', hStale, hLists, hFile⟩ :=
      (mem_mergedFiles (not_isAbsolute_of_beginsAsRun hBegins)).1 hMerged
    have hRun : isRunReport name = true := by
      rw [isRunReport_eq hLists.isName hFile]
      exact hBegins
    refine appearsIn_of_lists hRun hRest ?_ (lists_of_removeStale hStale hLists)
    rw [lists_after_report hReport hFirst, hRun]
    simp
  · intro name hLists
    have hName := hLists.isName
    have hAfter := lists_after_report hReport hFirst name
    rw [mem_mergedFiles (Path.isAbsolute_of_isName hName), removeStale_after_report hReport hFirst]
    constructor
    · rintro ⟨d', hStale, hLeft, hFile⟩
      obtain rfl := Except.ok.inj hStale
      obtain ⟨-, hRun, hEntry⟩ := hAfter.1 hLeft
      rw [isRunReport_eq hName hFile] at hRun
      exact ⟨hFile, hRun, hEntry⟩
    · rintro ⟨hFile, hBegins, hEntry⟩
      refine ⟨_, rfl, hAfter.2 ⟨hLists, ?_, hEntry⟩, hFile⟩
      rw [isRunReport_eq hName hFile]
      exact hBegins

/-! ### A report of each kind -/

/-- A runner that leaves one report, and a merger that writes an empty document. -/
def oneReport : Programs := fun launch _ d =>
  if launch.args.contains "--spec" then
    (.ended (some 0) .empty,
      (d.write "cypress/reports/mochawesome.json" "{}".toUTF8).toOption.getD d)
  else (.ended (some 0) "{}".toUTF8, d)

def callOf (call : Call) : StageCall where
  job := ⟨⟨0⟩, "login", "run", .null, ⟨0, 0⟩⟩
  call := call
  programs := oneReport
  surroundings := { disk := .empty [], clock := fun _ => ⟨0, 0⟩ }

def standard : Pipeline := ({} : Settings).pipeline none

/-- A disk with one file in the folder of reports. -/
def diskWith (name : String)
    (hName : isPlace ["cypress", "reports", name] = true := by decide) : Disk :=
  (((Disk.empty []).put ["cypress"] .folder).put ["cypress", "reports"] .folder).put
    ["cypress", "reports", name] (.file "{}".toUTF8) hName

/-- A report that is merged a second time was left by the runner a second time. -/
theorem report_merged_again_after_rerun :
    standard.purging (diskWith "mochawesome.json") [callOf .report, callOf (.execute "a.cy.js")] =
        true ∧
      "cypress/reports/mochawesome.json" ∈ standard.mergedFiles
        (standard.after (diskWith "mochawesome.json") [callOf .report, callOf (.execute "a.cy.js")]) ∧
      standard.AppearsIn (standard.after (diskWith "mochawesome.json") [callOf .report])
        [callOf (.execute "a.cy.js")] "mochawesome.json" :=
  ⟨by decide +kernel, by decide +kernel,
    (report_merged_again standard (diskWith "mochawesome.json") (callOf .report) _ rfl
      (by decide +kernel)).1 "mochawesome.json" rfl (by decide +kernel)⟩

/-- Not every report that is merged a second time was put there a second time: one of another name
stays in its folder. -/
theorem report_merged_twice :
    ¬ ∀ (p : Pipeline) (d : Disk) (first : StageCall) (between : List StageCall) (name : String),
      first.call = .report → p.purging d (first :: between) = true →
        Path.join p.reportsDir name ∈ p.mergedFiles d →
          Path.join p.reportsDir name ∈ p.mergedFiles (p.after d (first :: between)) →
            p.AppearsIn (p.after d [first]) between name := by
  intro h
  obtain ⟨before, c, rest, hNone, -⟩ := h standard (diskWith "run.json") (callOf .report) []
    "run.json" rfl (by decide +kernel) (by decide +kernel) (by decide +kernel)
  simp at hNone

end Pipeline
end SessionReplay
