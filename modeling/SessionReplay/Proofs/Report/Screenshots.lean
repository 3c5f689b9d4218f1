import SessionReplay.Proofs.Conversion.Recordings
import SessionReplay.Report.Build

/-!
# Screenshots of failed tests

A failed test goes with the first image in the folder that is named like its test file. Which one
is the first is told by the names alone: where that one cannot be read no other is taken for it.

* `IsPng`, `FirstImage`: the first image, and that `Screenshot.find` finds it.
* `TestCase.finalReport_eq`: a screenshot is all that is added to a report.
* `RunResults.screenshot_of_mem`: which reports have a screenshot.
* `RunResults.unreadable_first_image`: a folder among the images.
-/

namespace SessionReplay

open Storage

/-! ## The first image of a folder -/

/-- A name with the extension `png`, in whatever case. -/
def IsPng (name : String) : Prop :=
  ∃ base ext, base ≠ "" ∧ ext.toLower = "png" ∧ name = base ++ "." ++ ext

/-- The path of the first image, by name, in the folder that is named like a file. -/
inductive FirstImage (d : Disk) (root file : String) : String → Prop
  | image {folder name : String} (hFolder : Path.EndsIn file folder)
    (hListed : d.Lists (Path.join root folder) name) (hPng : IsPng name)
    (hFirst : ∀ other, d.Lists (Path.join root folder) other → IsPng other → name ≤ other) :
    FirstImage d root file (Path.join (Path.join root folder) name)

namespace Screenshot

/-- An extension that is `png` has no dot in it. -/
theorem not_mem_dot {ext : String} (h : ext.toLower = "png") : '.' ∉ ext.toList := by
  intro hMem
  have hMap : ext.toLower = ext.map Char.toLower := rfl
  have hLower : (Char.toLower '.') ∈ ext.toLower.toList := by
    rw [hMap, String.toList_map]
    exact List.mem_map_of_mem hMem
  rw [h] at hLower
  exact absurd hLower (by decide)

theorem isImage_iff {name : String} (hName : Path.IsPlain name) :
    isImage name = true ↔ IsPng name := by
  have hImage : isImage name = true ↔
      ∃ ext, (Path.splitName name).2 = some ext ∧ ext.toLower = "png" := by
    rw [isImage, Path.extension?_of_isPlain hName]
    cases (Path.splitName name).2 <;> simp
  rw [hImage]
  constructor
  · rintro ⟨ext, hExt, hPng⟩
    obtain ⟨base, hBase, -, hSame⟩ := Path.splitName_eq_some.1 hExt
    exact ⟨base, ext, hBase, hPng, hSame⟩
  · rintro ⟨base, ext, hBase, hPng, hSame⟩
    exact ⟨ext, Path.splitName_eq_some.2 ⟨base, hBase, not_mem_dot hPng, hSame⟩, hPng⟩

theorem pairwise_sortNames_le (names : List String) : (sortNames names).Pairwise (· ≤ ·) := by
  have h : (names.mergeSort fun a b => decide (a ≤ b)).Pairwise fun a b => decide (a ≤ b) :=
    List.pairwise_mergeSort (fun a b c => by simpa using String.le_trans)
      (fun a b => by simpa using String.le_total a b) names
  simpa [sortNames] using h

theorem mem_sortNames {names : List String} {name : String} :
    name ∈ sortNames names ↔ name ∈ names :=
  List.mem_mergeSort

/-- The first of sorted names is the least of them. -/
theorem head?_sortNames {names : List String} {name : String} :
    (sortNames names).head? = some name ↔ name ∈ names ∧ ∀ other ∈ names, name ≤ other := by
  have hSorted := pairwise_sortNames_le names
  have hMem (other : String) : other ∈ names ↔ other ∈ sortNames names := mem_sortNames.symm
  simp only [hMem]
  cases hNames : sortNames names with
  | nil => simp
  | cons first rest =>
    rw [hNames] at hSorted
    have hLeast := (List.pairwise_cons.1 hSorted).1
    rw [List.head?_cons, Option.some.injEq]
    constructor
    · rintro rfl
      refine ⟨List.mem_cons_self, fun other hOther => ?_⟩
      rcases List.mem_cons.1 hOther with rfl | hRest
      · exact String.le_refl _
      · exact hLeast other hRest
    · rintro ⟨hOwn, hAll⟩
      rcases List.mem_cons.1 hOwn with rfl | hRest
      · rfl
      · exact String.le_antisymm (hLeast name hRest) (hAll first List.mem_cons_self)

theorem head?_images {d : Disk} {folder path : String} :
    (images d folder).head? = some path ↔ ∃ name, d.Lists folder name ∧ IsPng name ∧
      (∀ other, d.Lists folder other → IsPng other → name ≤ other) ∧
      path = Path.join folder name := by
  unfold images
  cases hList : d.list folder with
  | error fault => simp [Disk.Lists, hList]
  | ok names =>
    have hMem : ∀ name, name ∈ names.filter isImage ↔ d.Lists folder name ∧ IsPng name := by
      intro name
      have hLists : d.Lists folder name ↔ name ∈ names := by simp [Disk.Lists, hList]
      rw [List.mem_filter, ← hLists]
      exact and_congr_right fun h => isImage_iff (Path.isPlain_of_isName h.isName)
    simp only [List.head?_map, Option.map_eq_some_iff, head?_sortNames, hMem]
    constructor
    · rintro ⟨name, ⟨⟨hListed, hPng⟩, hFirst⟩, rfl⟩
      exact ⟨name, hListed, hPng, fun other hOther hIs => hFirst other ⟨hOther, hIs⟩, rfl⟩
    · rintro ⟨name, hListed, hPng, hFirst, rfl⟩
      exact ⟨name, ⟨⟨hListed, hPng⟩, fun other hOther => hFirst other hOther.1 hOther.2⟩, rfl⟩

/-- The image that is found is the first one. -/
theorem find_eq_some {d : Disk} {root file path : String} :
    find d root file = some path ↔ FirstImage d root file path := by
  simp only [find, Option.bind_eq_bind, Option.bind_eq_some_iff, Path.fileName?_eq_some,
    head?_images]
  constructor
  · rintro ⟨folder, hFolder, name, hListed, hPng, hFirst, rfl⟩
    exact .image hFolder hListed hPng hFirst
  · intro h
    cases h with
    | @image folder name hFolder hListed hPng hFirst =>
      exact ⟨folder, hFolder, name, hListed, hPng, hFirst, rfl⟩

end Screenshot

/-! ## Reports with a screenshot -/

section Reports

variable {d : Disk} {root runId : String} {now : Instant} {r : RunResults} {report : TestReport}

theorem TestReport.withScreenshot_of_image {path : String} {bytes : ByteArray}
    (hFirst : FirstImage d root report.fileName path) (hRead : d.read path = .ok bytes) :
    report.withScreenshot d root =
      { report with screenshot := Screenshot.encode bytes, screenshotMissing := false } := by
  rw [withScreenshot, Screenshot.find_eq_some.2 hFirst, Option.map_some, Screenshot.load, hRead]
  rfl

theorem TestReport.withScreenshot_of_none
    (hNone : ∀ path bytes, FirstImage d root report.fileName path → d.read path ≠ .ok bytes) :
    report.withScreenshot d root = report := by
  unfold withScreenshot
  cases hFind : Screenshot.find d root report.fileName with
  | none => rfl
  | some path =>
    have hFirst := Screenshot.find_eq_some.1 hFind
    cases hRead : d.read path with
    | ok bytes => exact absurd hRead (hNone path bytes hFirst)
    | error fault => simp [Screenshot.load, hRead]

/-- A screenshot is all that is added to a report. -/
theorem TestCase.finalReport_eq (d : Disk) (root : String) (c : ReportContext) (t : TestCase) :
    ∃ screenshot missing, t.finalReport d root c =
      { t.report c with screenshot := screenshot, screenshotMissing := missing } := by
  unfold finalReport TestReport.withScreenshot
  dsimp only
  split
  · split <;> exact ⟨_, _, rfl⟩
  · exact ⟨_, _, rfl⟩

theorem TestCase.status_finalReport (d : Disk) (root : String) (c : ReportContext)
    (t : TestCase) : (t.finalReport d root c).status = t.status := by
  obtain ⟨screenshot, missing, hFinal⟩ := t.finalReport_eq d root c
  rw [hFinal, report]

theorem TestCase.fileName_finalReport (d : Disk) (root : String) (c : ReportContext)
    (t : TestCase) : (t.finalReport d root c).fileName = c.file := by
  obtain ⟨screenshot, missing, hFinal⟩ := t.finalReport_eq d root c
  rw [hFinal, report]

theorem RunResults.exists_of_mem (hReport : report ∈ r.reports d root runId now) :
    ∃ c t, report = TestCase.finalReport d root c t := by
  simp only [reports, FileResult.reports, Suite.reports, List.mem_flatMap, List.mem_map] at hReport
  obtain ⟨f, -, s, -, t, -, rfl⟩ := hReport
  exact ⟨_, t, rfl⟩

/-! ### A folder among the images -/

/-- A test that failed, in a run of its own. -/
def rejected : TestCase := ⟨some "rejects", none, some "failed", none, none, none⟩

def failedRun : RunResults :=
  ⟨some (some "2025-03-01T10:15:30.5Z"),
    [⟨some "e2e/login.cy.js", [⟨some "Login", [rejected]⟩]⟩]⟩

theorem reports_failedRun (d : Disk) (root runId : String) (now : Instant) :
    failedRun.reports d root runId now =
      [rejected.finalReport d root ⟨runId, failedRun.runTime now, "e2e/login.cy.js", "Login"⟩] :=
  rfl

/-- Two images of its test file, of which this is the first. -/
def screenshots (first : Storage.Entry) : Disk :=
  ((((Disk.empty []).put ["screenshots"] .folder).put ["screenshots", "login.cy.js"] .folder).put
    ["screenshots", "login.cy.js", "b.png"] (.file "img".toUTF8)).put
      ["screenshots", "login.cy.js", "a.PNG"] first

theorem firstImage_screenshots
    (hList : d.list "screenshots/login.cy.js" = .ok ["b.png", "a.PNG"]) :
    FirstImage d "screenshots" "e2e/login.cy.js" "screenshots/login.cy.js/a.PNG" := by
  have hFolder : Path.join "screenshots" "login.cy.js" = "screenshots/login.cy.js" := by decide
  have hPath : Path.join "screenshots/login.cy.js" "a.PNG" = "screenshots/login.cy.js/a.PNG" := by
    decide
  have hLists : ∀ name, d.Lists "screenshots/login.cy.js" name ↔
      name = "b.png" ∨ name = "a.PNG" := by
    simp [Disk.Lists, hList]
  rw [← hPath, ← hFolder]
  refine .image (Path.fileName?_eq_some.1 (by decide +kernel)) ?_ ?_ ?_
  · exact (hFolder ▸ hLists _).2 (.inr rfl)
  · exact ⟨"a", "PNG", by decide, by decide +kernel, by decide⟩
  · rw [hFolder]
    intro other hOther _
    rcases (hLists other).1 hOther with rfl | rfl <;> decide

/-- The first image is a folder, so that the report of the test has no screenshot, though there is
an image that can be read. -/
theorem RunResults.unreadable_first_image :
    ∃ report ∈ failedRun.reports (screenshots .folder) "screenshots" "run-9" ⟨0, 0⟩,
      report.status = "failed" ∧ Path.EndsIn report.fileName "login.cy.js" ∧
      (screenshots .folder).Lists "screenshots/login.cy.js" "b.png" ∧ IsPng "b.png" ∧
      (screenshots .folder).read "screenshots/login.cy.js/b.png" = .ok "img".toUTF8 ∧
      report.screenshot = "" ∧ report.screenshotMissing = true := by
  have hList : (screenshots .folder).list "screenshots/login.cy.js" = .ok ["b.png", "a.PNG"] := by
    decide +kernel
  have hFind := Screenshot.find_eq_some.2 (firstImage_screenshots hList)
  have hFolder : (screenshots .folder).read "screenshots/login.cy.js/a.PNG" = .error .isFolder := by
    decide +kernel
  have hReport (c : ReportContext) (hFile : c.file = "e2e/login.cy.js") :
      rejected.finalReport (screenshots .folder) "screenshots" c = rejected.report c := by
    rw [TestCase.finalReport]
    refine (if_pos rfl).trans (TestReport.withScreenshot_of_none fun path bytes hFirst hRead => ?_)
    have hPath := Screenshot.find_eq_some.2 hFirst
    rw [TestCase.report, hFile, hFind] at hPath
    rw [← Option.some.inj hPath, hFolder] at hRead
    contradiction
  refine ⟨_, List.mem_singleton.2 rfl, ?_⟩
  rw [hReport _ rfl]
  exact ⟨rfl, Path.fileName?_eq_some.1 (by decide +kernel), ⟨_, hList, by decide⟩,
    ⟨"b", "png", by decide, by decide +kernel, by decide⟩, by decide +kernel, rfl, rfl⟩

/-- **Which reports have a screenshot.** The report of a test that failed has the text of the first
image in the folder of its file, if that image can be read. Every other report has none. -/
theorem RunResults.screenshot_of_mem (hReport : report ∈ r.reports d root runId now) :
    (∀ path bytes, report.status = "failed" → FirstImage d root report.fileName path →
      d.read path = .ok bytes →
        report.screenshot = Screenshot.encode bytes ∧ report.screenshotMissing = false) ∧
    ((∀ path bytes, report.status = "failed" → FirstImage d root report.fileName path →
      d.read path ≠ .ok bytes) →
        report.screenshot = "" ∧ report.screenshotMissing = true) := by
  obtain ⟨c, t, rfl⟩ := exists_of_mem hReport
  have hFailed : (t.report c).isFailed = true ↔ t.status = "failed" := by
    rw [TestReport.isFailed, beq_iff_eq, TestCase.report]
  rw [t.status_finalReport, t.fileName_finalReport, ← hFailed]
  by_cases hCase : (t.report c).isFailed = true
  · simp only [TestCase.finalReport, hCase, if_true]
    constructor
    · intro path bytes _ hFirst hRead
      rw [TestReport.withScreenshot_of_image hFirst hRead]
      exact ⟨rfl, rfl⟩
    · intro hNone
      rw [TestReport.withScreenshot_of_none fun path bytes => hNone path bytes trivial]
      exact ⟨rfl, rfl⟩
  · constructor
    · intro path bytes hIs
      exact absurd hIs hCase
    · intro _
      rw [TestCase.finalReport, if_neg hCase]
      exact ⟨rfl, rfl⟩

/-- The first image is a file. -/
theorem RunResults.screenshot_of_mem_first :
    ∃ report ∈ failedRun.reports (screenshots (.file "first".toUTF8)) "screenshots" "run-9" ⟨0, 0⟩,
      report.screenshot = "Zmlyc3Q=" ∧ report.screenshotMissing = false := by
  have hText : Screenshot.encode "first".toUTF8 = "Zmlyc3Q=" := by decide +kernel
  have hMem := List.mem_singleton_self (rejected.finalReport (screenshots (.file "first".toUTF8))
    "screenshots" ⟨"run-9", failedRun.runTime ⟨0, 0⟩, "e2e/login.cy.js", "Login"⟩)
  rw [← reports_failedRun] at hMem
  rw [← hText]
  refine ⟨_, hMem, (screenshot_of_mem hMem).1 "screenshots/login.cy.js/a.PNG" _ ?_ ?_
    (by decide +kernel)⟩
  · rw [TestCase.status_finalReport]
    rfl
  · rw [TestCase.fileName_finalReport]
    exact firstImage_screenshots (by decide +kernel)

end Reports
end SessionReplay
