import SessionReplay.Proofs.Conversion.File
import SessionReplay.Proofs.Pipeline.Exits
import SessionReplay.Proofs.Storage.Making

/-!
# Only fresh results

* `Pipeline.Merging`: how merging ends once there are reports to merge.
* `Pipeline.Merged`, `Pipeline.Unmerged`: what there is behind a merger that was of use, and behind
  one that was not.
* `Pipeline.merge_fresh`: no results of an earlier run are ever left to be published.
* `Pipeline.merge_shows_alike`: reports whose names are no texts may be given to the merger as the
  same one.
-/

namespace SessionReplay.Pipeline

open Storage

variable {p : Pipeline} {programs : Programs} {d d' : Disk} {strays : Strays}

/-! ## The ends of merging -/

/-- The folder in which the results are stored, the empty path where none needs to be made. -/
def resultsFolder (p : Pipeline) : String := (Path.parent? p.resultsPath).getD ""

/-- How merging ends when there are files to merge. -/
inductive Merging (p : Pipeline) (programs : Programs) (files : List String) (d : Disk) :
    Except Trouble Nat × Disk → Prop where
  | notStarted {t : Trouble} (hZero : (p.mergerInvocation files).holdsZero = true) :
    Merging p programs files d (.error t, d)
  /-- The merger could not be started, took too long or ended without success. -/
  | stopped {t : Trouble} (hZero : (p.mergerInvocation files).holdsZero = false) :
    Merging p programs files d (.error t, (programs (p.mergerInvocation files).launch p.limit d).2)
  | noFolder {t : Trouble} {bytes : ByteArray} {left made : Disk} {fault : Fault}
    (hZero : (p.mergerInvocation files).holdsZero = false)
    (hRun : programs (p.mergerInvocation files).launch p.limit d = (.ended (some 0) bytes, left))
    (hFolder : left.makeFolders p.resultsFolder = (.error fault, made)) :
    Merging p programs files d (.error t, made)
  | unwritten {bytes : ByteArray} {left made : Disk} {fault : Fault}
    (hZero : (p.mergerInvocation files).holdsZero = false)
    (hRun : programs (p.mergerInvocation files).launch p.limit d = (.ended (some 0) bytes, left))
    (hFolder : left.makeFolders p.resultsFolder = (.ok (), made))
    (hWrite : made.writeText p.resultsPath ((p.mergerInvocation files).captured bytes) =
      .error fault) :
    Merging p programs files d (.error (failedTo "write" p.resultsPath fault), made)
  | written {bytes : ByteArray} {left made d' : Disk}
    (hZero : (p.mergerInvocation files).holdsZero = false)
    (hRun : programs (p.mergerInvocation files).launch p.limit d = (.ended (some 0) bytes, left))
    (hFolder : left.makeFolders p.resultsFolder = (.ok (), made))
    (hWrite : made.writeText p.resultsPath ((p.mergerInvocation files).captured bytes) = .ok d') :
    Merging p programs files d (.ok files.length, d')

theorem merging (p : Pipeline) (programs : Programs) (files : List String) (d : Disk) :
    p.Merging programs files d (p.mergeFiles programs files d) := by
  unfold mergeFiles Invocation.run
  cases hZero : (p.mergerInvocation files).holdsZero with
  | true => exact .notStarted hZero
  | false =>
    have hStopped (t : Trouble) : p.Merging programs files d
        (.error t, (programs (p.mergerInvocation files).launch p.limit d).2) := .stopped hZero
    rcases hRun : programs (p.mergerInvocation files).launch p.limit d with ⟨finish, left⟩
    rw [hRun] at hStopped
    cases finish with
    | notStarted reason | timedOut => exact hStopped _
    | ended code bytes =>
      simp only [Bool.false_eq_true, if_false, ProgramOutput.isSuccess]
      by_cases hCode : code = some 0
      · subst hCode
        simp only [beq_self_eq_true, if_true, storeResults, store]
        rcases hFolder : left.makeFolders p.resultsFolder with ⟨fault | ⟨⟩, made⟩
        · rw [resultsFolder] at hFolder
          simp only [hFolder]
          exact .noFolder hZero hRun hFolder
        · have hMade := hFolder
          rw [resultsFolder] at hMade
          simp only [hMade]
          cases hWrite : made.writeText p.resultsPath
              ((p.mergerInvocation files).captured bytes) with
          | error fault => exact .unwritten hZero hRun hFolder hWrite
          | ok d' => exact .written hZero hRun hFolder hWrite
      · simp only [beq_iff_eq, hCode, if_false]
        exact hStopped _

/-! ## What there is behind a merger -/

/-- The results are what the merger wrote when it was given the reports in the folder, each of them
once and in the order of their names, and ended with success. What is given for a report is its path
as a text. -/
inductive Merged (p : Pipeline) (programs : Programs) (d : Disk) (strays : Strays) :
    Nat → Disk → Prop where
  | intro {before left d' : Disk} {names : List EntryName} {bytes : ByteArray}
    (hStale : p.removeStale d = .ok before)
    (hNames : ∀ name, name ∈ names ↔
      before.ListsBeside strays p.reportsDir name ∧ isReport name = true)
    (hOrder : names.Pairwise fun a b => a.bytes < b.bytes) (hSome : 1 ≤ names.length)
    (hRun : programs
      ⟨p.merger.program, p.merger.args ++ names.map (EntryName.shown p.reportsDir), []⟩ p.limit
        before = (.ended (some 0) bytes, left))
    (hResults : d'.readText p.resultsPath = .ok ((String.fromUTF8? bytes).getD "")) :
    Merged p programs d strays names.length d'

/-- There are no results, unless those of an earlier run could not be removed, or the new ones could
not be written. -/
inductive Unmerged (p : Pipeline) (programs : Programs) (d : Disk) (strays : Strays) :
    Trouble → Disk → Prop where
  | stale {fault : Fault} (hHas : d.has p.resultsPath = true)
    (hRemove : d.remove p.resultsPath = .error fault) :
    Unmerged p programs d strays (failedTo "remove stale" p.resultsPath fault) d
  | unwritten {before left made : Disk} {files : List String} {bytes : ByteArray} {fault : Fault}
    (hStart : p.mergerStart d strays = some (before, files))
    (hRun : programs (p.mergerInvocation files).launch p.limit before =
      (.ended (some 0) bytes, left))
    (hFolder : left.makeFolders p.resultsFolder = (.ok (), made))
    (hWrite : made.writeText p.resultsPath ((p.mergerInvocation files).captured bytes) =
      .error fault) :
    Unmerged p programs d strays (failedTo "write" p.resultsPath fault) made
  | gone {t : Trouble} {d' : Disk} (hGone : d'.has p.resultsPath = false) :
    Unmerged p programs d strays t d'

/-- The merger, if it is started, leaves alone whether there are results. -/
def LeavesResults (p : Pipeline) (programs : Programs) (d : Disk) (strays : Strays := .none) :
    Prop :=
  ∀ before files, p.mergerStart d strays = some (before, files) →
    (programs (p.mergerInvocation files).launch p.limit before).2.has p.resultsPath =
      before.has p.resultsPath

theorem not_has_of_removeStale (h : p.removeStale d = .ok d') : d'.has p.resultsPath = false := by
  rcases removeStale_eq_ok.1 h with ⟨-, hRemove⟩ | ⟨hNone, rfl⟩
  · exact (Disk.edits_of_remove hRemove).2
  · exact hNone

/-- Where the folder of the results could not be made there are none. -/
theorem not_has_of_noFolder {fault : Fault}
    (hFolder : d.makeFolders p.resultsFolder = (.error fault, d')) :
    d'.has p.resultsPath = false := by
  have hNone := Disk.not_isFolder_of_makeFolders hFolder
  unfold resultsFolder at hFolder hNone
  cases hParent : Path.parent? p.resultsPath with
  | none => simp [hParent, Disk.makeFolders_empty] at hFolder
  | some up =>
    rw [hParent, Option.getD_some] at hFolder hNone
    have hNe : up ≠ "" := by
      rintro rfl
      simp [Disk.makeFolders_empty] at hFolder
    rw [Bool.eq_false_iff]
    intro hHas
    rw [Disk.isFolder_above hHas hParent hNe] at hNone
    contradiction

theorem merged_of_merge {count : Nat} (hOk : p.merge programs d strays = (.ok count, d')) :
    p.Merged programs d strays count d' := by
  rcases p.merge_eq d strays with ⟨t, -, hMerge⟩ | ⟨before, hStale, ⟨t, -, hMerge⟩ | hMerged⟩
  · simp [hMerge] at hOk
  · simp [hMerge] at hOk
  · obtain ⟨hSome, hFiles, hMerge⟩ := hMerged
    obtain ⟨names, hPaths, hOrder, hNames⟩ := names_of_reportFiles hFiles
    rw [hPaths] at hMerge hSome
    have hMerging := p.merging programs (names.map (EntryName.shown p.reportsDir)) before
    rw [← hMerge, hOk] at hMerging
    cases hMerging with
    | written hZero hRun hFolder hWrite =>
      rw [List.length_map]
      have hCount : names ≠ [] := fun hNone => hSome (by rw [hNone, List.map_nil])
      exact .intro hStale hNames hOrder (List.length_pos_iff.2 hCount) hRun
        (Converter.readText_of_writeText hWrite)

theorem unmerged_of_merge {t : Trouble} (hLeaves : p.LeavesResults programs d strays)
    (hError : p.merge programs d strays = (.error t, d')) : p.Unmerged programs d strays t d' := by
  rcases p.merge_eq d strays with ⟨other, hStale, hMerge⟩ | ⟨before, hStale, hMerged⟩
  · rw [hMerge, Prod.mk.injEq, Except.error.injEq] at hError
    obtain ⟨rfl, rfl⟩ := hError
    obtain ⟨hHas, fault, hRemove, rfl⟩ := removeStale_eq_error.1 hStale
    exact .stale hHas hRemove
  · have hBefore := not_has_of_removeStale hStale
    rcases hMerged with ⟨other, -, hMerge⟩ | ⟨hSome, -, hMerge⟩
    · rw [hMerge, Prod.mk.injEq] at hError
      exact .gone (hError.2 ▸ hBefore)
    · have hStart (hZero : (p.mergerInvocation (p.mergedFiles d strays)).holdsZero = false) :
          p.mergerStart d strays = some (before, p.mergedFiles d strays) := by
        rw [mergerStart_eq hStale, if_neg (by simp [hSome, hZero])]
      have hMerging := p.merging programs (p.mergedFiles d strays) before
      rw [← hMerge, hError] at hMerging
      cases hMerging with
      | notStarted => exact .gone hBefore
      | stopped hZero => exact .gone ((hLeaves _ _ (hStart hZero)).trans hBefore)
      | noFolder hZero hRun hFolder => exact .gone (not_has_of_noFolder hFolder)
      | unwritten hZero hRun hFolder hWrite => exact .unwritten (hStart hZero) hRun hFolder hWrite

/-- **Only fresh results are published.** Merging is a success only if the results are what the
merger wrote for the reports in the folder, each of which was given to it by its path, or by what
this is as a text if its name is none. Where merging fails there are no results, not even those of
an earlier run; the exceptions are that these could not be removed, and that the new ones could not
be written. Nothing is sent unless merging was a success. -/
theorem merge_fresh (p : Pipeline) (programs : Programs) (j : Job) (h : Host) (strays : Strays) :
    (∀ count d', p.merge programs h.disk strays = (.ok count, d') →
      p.Merged programs h.disk strays count d') ∧
    (∀ name, (EntryName.text name).shown p.reportsDir = Path.join p.reportsDir name) ∧
    (p.LeavesResults programs h.disk strays →
      ∀ t d', p.merge programs h.disk strays = (.error t, d') →
        p.Unmerged programs h.disk strays t d') ∧
    ((p.report programs j h strays).2.sent ≠ h.sent →
      ∃ count d', p.merge programs h.disk strays = (.ok count, d')) := by
  refine ⟨fun _ _ => merged_of_merge, EntryName.shown_text p.reportsDir,
    fun hLeaves _ _ => unmerged_of_merge hLeaves, fun hSent => ?_⟩
  rcases hMerge : p.merge programs h.disk strays with ⟨t | count, d'⟩
  · simp [report, hMerge, purge] at hSent
  · exact ⟨count, d', rfl⟩

/-- A merger that writes something and fails. -/
def failingMerger : Programs := fun _ _ d => (.ended (some 1) "{}".toUTF8, d)

/-- Two names that are no texts. -/
def alikeStrays : Strays where
  names := [⟨0xFE :: Text.utf8 ".json", by decide +kernel⟩,
    ⟨0xFF :: Text.utf8 ".json", by decide +kernel⟩]
  nodup := by decide +kernel

/-- Results that are there before a merger fails are gone behind it, and nothing is sent. A merger
that succeeds has merged a report beside two whose names are no texts. -/
theorem merge_fresh_failing :
    let p := ({} : Settings).pipeline (some ⟨"http://helix", "user", "secret", some "Results", none⟩)
    let d := (diskWith "run.json").put ["cypress", "results.json"] (.file "{}".toUTF8)
    let job : Job := ⟨⟨0⟩, "login", "run", .null, ⟨0, 0⟩⟩
    let h : Host := { disk := d, clock := fun _ => ⟨0, 0⟩, network := .scripted [⟨200, "token"⟩] }
    d.has p.resultsPath = true ∧ p.LeavesResults failingMerger d ∧
      (∃ t d', p.merge failingMerger d = (.error t, d') ∧ p.Unmerged failingMerger d .none t d' ∧
        d'.has p.resultsPath = false) ∧
      (p.report failingMerger job h).2.sent = h.sent ∧
      ∃ d', p.merge oneReport (diskWith "run.json") alikeStrays = (.ok 3, d') ∧
        p.Merged oneReport (diskWith "run.json") alikeStrays 3 d' := by
  intro p d job h
  obtain ⟨-, -, hUnmerged, hSent⟩ := merge_fresh p failingMerger job h .none
  obtain ⟨hMerged, -⟩ := merge_fresh p oneReport job { h with disk := diskWith "run.json" } alikeStrays
  have hLeaves : p.LeavesResults failingMerger d := fun _ _ _ => rfl
  have hError : (p.merge failingMerger d).1 =
      .error ⟨"Report merge exited with Some(1)", []⟩ := by decide +kernel
  have hMerge : p.merge failingMerger d = (.error _, (p.merge failingMerger d).2) :=
    Prod.ext hError rfl
  have hList : (diskWith "run.json").listBeside alikeStrays p.reportsDir =
      .ok (.text "run.json" :: alikeStrays.names.map .stray) := by decide +kernel
  have hFiles := reportFiles_of_listed hList (by decide +kernel) (by decide +kernel)
  have hOk : (p.merge oneReport (diskWith "run.json") alikeStrays).1 = .ok 3 := by
    rw [merge_of_reportFiles (removeStale_eq_ok.2 (.inr ⟨by decide +kernel, rfl⟩)) hFiles]
    decide +kernel
  refine ⟨by decide +kernel, hLeaves, ⟨_, _, hMerge, hUnmerged hLeaves _ _ hMerge,
    by decide +kernel⟩, ?_, _, Prod.ext hOk rfl, hMerged 3 _ (Prod.ext hOk rfl)⟩
  by_contra hNe
  obtain ⟨count, d', hFound⟩ := hSent hNe
  rw [show h.disk = d from rfl, hMerge] at hFound
  cases hFound

/-- The merger does not get the paths of reports whose names are no texts. These two are given to it
as one and the same path, which is that of neither. -/
theorem merge_shows_alike :
    let d := ((Disk.empty []).put ["cypress"] .folder).put ["cypress", "reports"] .folder
    standard.mergedFiles d alikeStrays =
        ["cypress/reports/\uFFFD.json", "cypress/reports/\uFFFD.json"] ∧
      (standard.merge oneReport d alikeStrays).1 = .ok 2 ∧
      ¬ ∃ (names : List EntryName) (files : List String) (left : Disk) (bytes : ByteArray),
        (∀ name, name ∈ names ↔
          d.ListsBeside alikeStrays standard.reportsDir name ∧ isReport name = true) ∧
        files.map Text.utf8 = names.map (EntryName.path standard.reportsDir) ∧
        oneReport ⟨standard.merger.program, standard.merger.args ++ files, []⟩ standard.limit d =
          (.ended (some 0) bytes, left) := by
  intro d
  have hList : d.listBeside alikeStrays standard.reportsDir =
      .ok (alikeStrays.names.map .stray) := by decide +kernel
  have hReports : ∀ name ∈ alikeStrays.names.map EntryName.stray, isReport name = true := by
    decide +kernel
  have hFiles := reportFiles_of_listed hList hReports (by decide +kernel)
  have hShown : (alikeStrays.names.map EntryName.stray).map (EntryName.shown standard.reportsDir) =
      ["cypress/reports/\uFFFD.json", "cypress/reports/\uFFFD.json"] := by decide +kernel
  have hStale : standard.removeStale d = .ok d := removeStale_eq_ok.2 (.inr ⟨by decide +kernel, rfl⟩)
  rw [hShown] at hFiles
  refine ⟨by simp only [mergedFiles, hStale, hFiles], ?_, ?_⟩
  · rw [merge_of_reportFiles hStale hFiles]
    decide +kernel
  · rintro ⟨names, files, left, bytes, hNames, hPaths, -⟩
    obtain ⟨first, hFirst⟩ : ∃ first, alikeStrays.names.head? = some first := ⟨_, rfl⟩
    have hListed : EntryName.stray first ∈ alikeStrays.names.map .stray :=
      List.mem_map.2 ⟨first, List.mem_of_mem_head? hFirst, rfl⟩
    have hName := (hNames _).2 ⟨⟨_, hList, hListed⟩, hReports _ hListed⟩
    have hPath : (EntryName.stray first).path standard.reportsDir ∈ files.map Text.utf8 := by
      rw [hPaths]
      exact List.mem_map.2 ⟨_, hName, rfl⟩
    obtain ⟨file, -, hFile⟩ := List.mem_map.1 hPath
    exact EntryName.path_stray_ne _ file first hFile.symm

end SessionReplay.Pipeline
