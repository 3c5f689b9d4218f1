import SessionReplay.Proofs.Json.Viewing
import SessionReplay.Proofs.Report.Screenshots
import Mathlib.Algebra.Ring.Nat

/-!
# One report for each test

The reports of a run are those of its tests, in the order in which the tests stand in the results:
file by file, suite by suite. What a document says besides is not looked at, nor are the tests in
suites that stand in other suites.

* `RunResults.ofNode`: the results in a document, and that these are what is read from it.
* `RunResults.TestAt`: a test, where it stands, and its number.
* `TestReport.Tells`: what a report says of its test.
* `getElem?_flatMap_eq_some`: where an item of the lists stands when they are put together.
* `RunResults.reports_in_order`: each test has one report, which stands at its number.
-/

namespace SessionReplay

open Json

/-! ## What stands in a document -/

/-- A test as it stands in a document. What is missing or `null` is not there. -/
def TestCase.ofNode (node : Node) : TestCase :=
  let at? := node.under ["title", "fullTitle", "state", "pass", "duration", "err"]
  { title := (at? "title").bind Node.text?
    fullTitle := (at? "fullTitle").bind Node.text?
    state := (at? "state").bind Node.text?
    pass := (at? "pass").bind Node.flag?
    duration := (at? "duration").bind Node.word?
    failure := (at? "err").bind fun err => err.given?.map fun failure =>
      (failure.under ["message"] "message").bind Node.text? }

/-- A suite is its title and its tests. Suites inside it are not looked at. -/
def Suite.ofNode (node : Node) : Suite :=
  let at? := node.under ["title", "tests"]
  { title := (at? "title").bind Node.text?
    tests := (at? "tests").elim [] fun tests => tests.items.map TestCase.ofNode }

def FileResult.ofNode (node : Node) : FileResult :=
  let at? := node.under ["file", "suites"]
  { file := (at? "file").bind Node.text?
    suites := (at? "suites").elim [] fun suites => suites.items.map Suite.ofNode }

def RunResults.ofNode (node : Node) : RunResults :=
  let at? := node.under ["stats", "results"]
  { finished := (at? "stats").bind fun stats => stats.given?.map fun statistics =>
      (statistics.under ["end"] "end").bind Node.text?
    results := (at? "results").elim [] fun results => results.items.map FileResult.ofNode }

section Reading

open Fields

theorem TestCase.yields_decode : Node.Yields TestCase.decode TestCase.ofNode := by
  have hMessage := Fields.yields_decode (yields_optional "message" Node.yields_text) "TestFailure"
  have hNames := yields_seq (yields_map (yields_optional "title" Node.yields_text) TestCase.mk)
    (yields_optional "fullTitle" Node.yields_text)
  have hOutcome := yields_seq (yields_seq hNames (yields_optional "state" Node.yields_text))
    (yields_optional "pass" Node.yields_flag)
  have hDetails := yields_seq
    (yields_seq hOutcome (yields_optional "duration" (Node.yields_word "u64")))
    (yields_optional "err" (Node.yields_asOption hMessage))
  exact Fields.yields_decode hDetails "TestCase"

theorem Suite.yields_decode : Node.Yields Suite.decode Suite.ofNode :=
  Fields.yields_decode
    (yields_seq (yields_map (yields_optional "title" Node.yields_text) Suite.mk)
      (yields_withDefault "tests" (Node.yields_asList TestCase.yields_decode) [])) "Suite"

theorem FileResult.yields_decode : Node.Yields FileResult.decode FileResult.ofNode :=
  Fields.yields_decode
    (yields_seq (yields_map (yields_optional "file" Node.yields_text) FileResult.mk)
      (yields_withDefault "suites" (Node.yields_asList Suite.yields_decode) [])) "SpecResult"

theorem RunResults.yields_decode : Node.Yields RunResults.decode RunResults.ofNode := by
  have hEnd := Fields.yields_decode (yields_optional "end" Node.yields_text) "RunStats"
  exact Fields.yields_decode
    (yields_seq (yields_map (yields_optional "stats" (Node.yields_asOption hEnd)) RunResults.mk)
      (yields_withDefault "results" (Node.yields_asList FileResult.yields_decode) []))
    "MergedResults"

/-- The results that are read from a text are those that stand in it. -/
theorem RunResults.eq_ofNode {path text : String} {r : RunResults}
    (hRead : RunResults.ofText path text = .ok r) : r = ofNode (Document.ofText text).root := by
  unfold ofText at hRead
  cases hDecode : decodeText decode text with
  | error fault => simp [hDecode] at hRead
  | ok results =>
    obtain rfl : results = r := by simpa [hDecode] using hRead
    obtain ⟨found, hRoot, hTrailing⟩ := bind_eq_ok.1 hDecode
    split at hTrailing
    · contradiction
    · rw [← Except.ok.inj hTrailing]
      exact yields_decode _ found hRoot

end Reading

/-! ## The order of the tests -/

/-- Where an item of one of the lists stands when they are put together. -/
theorem getElem?_flatMap_eq_some {α β : Type} {l : List α} {f : α → List β} {n : Nat} {b : β} :
    (l.flatMap f)[n]? = some b ↔ ∃ i a k, l[i]? = some a ∧ (f a)[k]? = some b ∧
      n = ((l.take i).map fun a => (f a).length).sum + k := by
  induction l generalizing n with
  | nil => simp
  | cons first rest ih =>
    rw [List.flatMap_cons]
    by_cases hFirst : n < (f first).length
    · rw [List.getElem?_append_left hFirst]
      constructor
      · exact fun h => ⟨0, first, n, rfl, h, by simp⟩
      · rintro ⟨i, a, k, hList, hItem, rfl⟩
        cases i with
        | zero =>
          obtain rfl := Option.some.inj hList
          simpa using hItem
        | succ i =>
          rw [List.take_succ_cons, List.map_cons, List.sum_cons] at hFirst
          omega
    · rw [List.getElem?_append_right (Nat.le_of_not_lt hFirst), ih]
      constructor
      · rintro ⟨i, a, k, hList, hItem, hIndex⟩
        refine ⟨i + 1, a, k, hList, hItem, ?_⟩
        rw [List.take_succ_cons, List.map_cons, List.sum_cons]
        omega
      · rintro ⟨i, a, k, hList, hItem, hIndex⟩
        cases i with
        | zero =>
          obtain rfl := Option.some.inj hList
          have hLess := (List.getElem?_eq_some_iff.1 hItem).1
          simp only [List.take_zero, List.map_nil, List.sum_nil, Nat.zero_add] at hIndex
          omega
        | succ i =>
          refine ⟨i, a, k, hList, hItem, ?_⟩
          rw [List.take_succ_cons, List.map_cons, List.sum_cons] at hIndex
          omega

def Suite.testCount (s : Suite) : Nat := s.tests.length

def FileResult.testCount (f : FileResult) : Nat := (f.suites.map Suite.testCount).sum

def RunResults.testCount (r : RunResults) : Nat := (r.results.map FileResult.testCount).sum

/-- A test of a suite of a file, and its number: how many tests of earlier files there are, of
earlier suites of its file, and of earlier tests of its suite. -/
inductive RunResults.TestAt (r : RunResults) : Nat → FileResult → Suite → TestCase → Prop
  | test {i j k : Nat} {f : FileResult} {s : Suite} {t : TestCase} (hFile : r.results[i]? = some f)
    (hSuite : f.suites[j]? = some s) (hTest : s.tests[k]? = some t) :
    TestAt r (((r.results.take i).map FileResult.testCount).sum +
      (((f.suites.take j).map Suite.testCount).sum + k)) f s t

/-- What a report says of a test. -/
structure TestReport.Tells (report : TestReport) (runId runTime : String) (f : FileResult)
    (s : Suite) (t : TestCase) : Prop where
  runId : report.runId = runId
  runTime : report.runTime = runTime
  file : report.fileName = f.file.getD "unknown"
  suite : report.suiteTitle = s.title.getD ""
  name : report.testName = t.title.getD "unknown"
  fullTitle : ∀ title, t.fullTitle = some title → report.fullTitle = title
  noFullTitle : t.fullTitle = none → report.fullTitle = t.title.getD "unknown"
  state : ∀ state, t.state = some state → report.status = state
  noState : t.state = none → report.status = if t.pass = some true then "passed" else "failed"
  duration : report.durationMs = t.duration.getD 0
  error : report.errorMessage = t.failure.join.getD ""

section Order

variable {d : Disk} {root runId : String} {now : Instant}

theorem TestCase.tells_finalReport (d : Disk) (root runId runTime : String) (f : FileResult)
    (s : Suite) (t : TestCase) :
    (t.finalReport d root ⟨runId, runTime, f.file.getD unknownName, s.title.getD ""⟩).Tells runId
      runTime f s t := by
  obtain ⟨screenshot, missing, hFinal⟩ :=
    t.finalReport_eq d root ⟨runId, runTime, f.file.getD unknownName, s.title.getD ""⟩
  rw [hFinal]
  constructor
  all_goals try rfl
  · intro title hTitle
    simp [report, hTitle]
  · intro hNone
    simp [report, hNone, unknownName]
  · intro state hState
    simp [report, status, hState]
  · intro hNone
    rcases hPass : t.pass with _ | _ | _ <;> simp [report, status, hNone, hPass]

theorem Suite.length_reports (c : ReportContext) (s : Suite) :
    (s.reports d root c).length = s.testCount := by
  rw [reports, List.length_map, testCount]

theorem FileResult.length_reports (c : ReportContext) (f : FileResult) :
    (f.reports d root c).length = f.testCount := by
  simp only [reports, List.length_flatMap, Suite.length_reports, testCount]

theorem RunResults.length_reports (r : RunResults) :
    (r.reports d root runId now).length = r.testCount := by
  simp only [reports, List.length_flatMap, FileResult.length_reports, testCount]

/-- The reports are those of the tests, each at the number of its test. -/
theorem RunResults.getElem?_reports {r : RunResults} {n : Nat} {report : TestReport} :
    (r.reports d root runId now)[n]? = some report ↔ ∃ f s t, r.TestAt n f s t ∧
      report = t.finalReport d root
        ⟨runId, r.runTime now, f.file.getD unknownName, s.title.getD ""⟩ := by
  simp only [reports, getElem?_flatMap_eq_some, FileResult.length_reports]
  constructor
  · rintro ⟨i, f, m, hFile, hReport, rfl⟩
    obtain ⟨j, s, k, hSuite, hOwn, rfl⟩ := getElem?_flatMap_eq_some.1 hReport
    simp only [Suite.length_reports]
    rw [Suite.reports, List.getElem?_map, Option.map_eq_some_iff] at hOwn
    obtain ⟨t, hTest, rfl⟩ := hOwn
    exact ⟨f, s, t, .test hFile hSuite hTest, rfl⟩
  · rintro ⟨f, s, t, hAt, rfl⟩
    cases hAt with
    | @test i j k f s t hFile hSuite hTest =>
      refine ⟨i, f, _, hFile, getElem?_flatMap_eq_some.2 ⟨j, s, k, hSuite, ?_, rfl⟩, ?_⟩
      · rw [Suite.reports, List.getElem?_map, hTest]
        rfl
      · simp only [Suite.length_reports]

/-- **Each test has one report, which stands at its number.** There are as many reports as tests,
every report is that of the test with its number, and it says what that test says. Where the results
are read from a text, the tests are those that stand in it. -/
theorem RunResults.reports_in_order (r : RunResults) (d : Disk) (root runId : String)
    (now : Instant) :
    (r.reports d root runId now).length = r.testCount ∧
    (∀ n f s t, r.TestAt n f s t → ∃ report, (r.reports d root runId now)[n]? = some report ∧
      report.Tells runId (r.runTime now) f s t) ∧
    (∀ n report, (r.reports d root runId now)[n]? = some report → ∃ f s t, r.TestAt n f s t) ∧
    ∀ path text, ofText path text = .ok r → r = ofNode (Document.ofText text).root := by
  refine ⟨r.length_reports, ?_, ?_, fun path text => eq_ofNode⟩
  · intro n f s t hAt
    exact ⟨_, getElem?_reports.2 ⟨f, s, t, hAt, rfl⟩, t.tells_finalReport d root runId _ f s⟩
  · intro n report hReport
    obtain ⟨f, s, t, hAt, -⟩ := getElem?_reports.1 hReport
    exact ⟨f, s, t, hAt⟩

/-- Two tests in a suite, and a third one in a suite inside it. -/
def nestedSuites : String :=
  "\x7b\"results\":[\x7b\"file\":null,\"suites\":[\x7b\"title\":\"Login\"," ++
  "\"tests\":[\x7b\"pass\":true\x7d,\x7b\"fullTitle\":\"Login rejects\"\x7d]," ++
  "\"suites\":[\x7b\"tests\":[\x7b\x7d]\x7d]\x7d]\x7d]\x7d"

/-- There are two reports, of which the second is that of a test that does not say how it ended. -/
theorem RunResults.reports_in_order_nested :
    ∃ r, ofText "results.json" nestedSuites = .ok r ∧
      r = ofNode (Document.ofText nestedSuites).root ∧
      (r.reports (Disk.empty []) "screenshots" "run-9" ⟨0, 0⟩).length = 2 ∧
      ∃ report, (r.reports (Disk.empty []) "screenshots" "run-9" ⟨0, 0⟩)[1]? = some report ∧
        report.fileName = "unknown" ∧ report.suiteTitle = "Login" ∧
        report.fullTitle = "Login rejects" ∧ report.status = "failed" := by
  let works : TestCase := ⟨none, none, none, some true, none, none⟩
  let rejects : TestCase := ⟨none, some "Login rejects", none, none, none, none⟩
  let r : RunResults := ⟨none, [⟨none, [⟨some "Login", [works, rejects]⟩]⟩]⟩
  have hText : ofText "results.json" nestedSuites = .ok r := by decide +kernel
  obtain ⟨hLength, hReports, -, hDocument⟩ :=
    reports_in_order r (Disk.empty []) "screenshots" "run-9" ⟨0, 0⟩
  obtain ⟨report, hReport, hTells⟩ :=
    hReports 1 _ _ rejects (TestAt.test (i := 0) (j := 0) (k := 1) rfl rfl rfl)
  exact ⟨r, hText, hDocument _ _ hText, hLength, report, hReport, hTells.file, hTells.suite,
    hTells.fullTitle _ rfl, hTells.noState rfl⟩

end Order

end SessionReplay
