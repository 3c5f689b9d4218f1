import SessionReplay.Proofs.Script.Blocks

/-!
# Scripts are lexically well formed

* `bodyBrackets`: the brackets that are open around the steps.
* `toList_source`: the text of a script.
* `source_wellFormed`: the whole text is read without a fault, its brackets are closed in the order
  in which they were opened, and so are those of every block.
-/

namespace SessionReplay.Script

/-! ## The text -/

theorem lines_ne_nil (r : Recording) (fallback : String) : (ofRecording r fallback).lines ≠ [] := by
  rw [lines_ofRecording]
  simp [opening, imports]

theorem toList_source {s : Script} (h : s.lines ≠ []) : s.source.toList = textOf s.lines := by
  have hLines : ∀ lines : List String, lines ≠ [] →
      (String.intercalate "\n" lines ++ "\n").toList = textOf lines := by
    intro lines hNe
    induction lines with
    | nil => contradiction
    | cons line lines ih =>
      cases lines with
      | nil => simp [textOf]
      | cons next lines =>
        have hRest := ih (by simp)
        rw [String.intercalate_cons_cons, textOf, List.flatMap_cons, ← textOf, ← hRest]
        simp
  exact hLines _ h

/-! ## What stands around the steps -/

/-- The brackets of the bodies of `describe` and `it`, those of `it` first. -/
def bodyBrackets : List Char := ['\x7d', ')', '\x7d', ')']

/-- A suite or a test goes on until its body is closed. -/
theorem reads_body {function : String} {stack : List Char}
    (hFunction : Reads stack (')' :: stack) function) (name : String) :
    Reads stack ('\x7d' :: ')' :: stack) (function ++ quote name ++ ", () => \x7b") := by
  have hBody : Reads (')' :: stack) ('\x7d' :: ')' :: stack) ", () => \x7b" := ⟨by decide, rfl⟩
  exact (hFunction.append (reads_quote _ _)).append hBody

theorem imports_closed : IsClosedBlock (imports ++ [""]) := by
  refine .of_lines fun line hMem stack => ?_
  simp only [imports, List.cons_append, List.nil_append, List.mem_cons, List.not_mem_nil,
    or_false] at hMem
  rcases hMem with rfl | rfl | rfl <;> exact ⟨by decide, rfl⟩

theorem stepIndent_reads (stack : List Char) : Reads stack stack stepIndent := ⟨by decide, rfl⟩

theorem opening_reads (name : String) (viewport : Option Viewport) :
    ReadsBlock [] bodyBrackets (opening name viewport) := by
  have hImports := imports_closed []
  have hDescribe : ReadsBlock [] ['\x7d', ')'] ["describe(" ++ quote name ++ ", () => \x7b"] :=
    .of_line (reads_body ⟨by decide, rfl⟩ name).line
  have hIt : ReadsBlock ['\x7d', ')'] bodyBrackets ["  it(" ++ quote name ++ ", () => \x7b"] :=
    .of_line (reads_body ⟨by decide, rfl⟩ name).line
  refine ((hImports.append hDescribe).append hIt).append ?_
  split
  · split
    · exact .of_line ((stepIndent_reads _).append (reads_viewportLine _ _ _)).line
    · exact .nil
  · exact .nil

theorem closing_reads : ReadsBlock bodyBrackets [] closing := ⟨by decide, rfl⟩

/-! ## The steps -/

theorem indentedBlock_closed (index : Nat) (step : Json) : IsClosedBlock (indentedBlock index step) :=
  (stepBlock_closed index step).indent stepIndent_reads

theorem stepLines_closed (count : Nat) (steps : List Json) :
    IsClosedBlock (stepLines count steps) := by
  induction steps generalizing count with
  | nil => exact .nil
  | cons step steps ih => exact (indentedBlock_closed _ step).append (ih _)

theorem linesBefore_reads (r : Recording) (fallback : String) (before : List Json) :
    ReadsBlock [] bodyBrackets (linesBefore r fallback before) :=
  (opening_reads _ _).append (stepLines_closed 0 before _)

theorem lines_reads (r : Recording) (fallback : String) :
    ReadsBlock [] [] (ofRecording r fallback).lines := by
  rw [lines_ofRecording]
  exact (linesBefore_reads r fallback r.steps).append closing_reads

/-! ## The whole text -/

/-- What is read up to code has all its tokens, and their brackets are those that are scanned. -/
theorem lex_of_scan {stack next : List Char} {cs : List Char} (h : scan stack cs = some next) :
    ∃ tokens, lex isLineBreak cs = some tokens ∧ nest stack tokens = some next := by
  unfold scan at h
  split at h
  · next tokens hRun => exact ⟨tokens, by simp [lex, hRun, Mode.finish], h⟩
  · contradiction

/-- **Scripts are lexically well formed.** The text of a script is read without a fault: all its
literals are valid and closed in their lines, and its brackets are closed in the order in which
they were opened. Split at line feeds, it gives back the lines of the script. The block of each
step begins and ends in the bodies of `describe` and `it`, and by itself opens no bracket that it
does not close, and closes none that it did not open. -/
theorem source_wellFormed (r : Recording) (fallback : String) :
    (∃ tokens, lex isLineBreak (ofRecording r fallback).source.toList = some tokens ∧
      nest [] tokens = some []) ∧
    (ofRecording r fallback).source.toList.splitOn '\n' =
      (ofRecording r fallback).lines.map String.toList ++ [[]] ∧
    ∀ i : Fin r.steps.length,
      (∃ rest, (ofRecording r fallback).lines =
        linesBefore r fallback (r.steps.take i) ++ indentedBlock (i + 1) r.steps[i] ++ rest) ∧
      scan [] (textOf (linesBefore r fallback (r.steps.take i))) = some bodyBrackets ∧
      scan [] (textOf (linesBefore r fallback (r.steps.take i) ++
        indentedBlock (i + 1) r.steps[i])) = some bodyBrackets ∧
      ∀ stack, scan stack (textOf (indentedBlock (i + 1) r.steps[i])) = some stack := by
  have hLines := lines_reads r fallback
  rw [toList_source (lines_ne_nil r fallback)]
  refine ⟨lex_of_scan ?_, splitOn_textOf hLines.single, fun i => ?_⟩
  · rw [scan_textOf, hLines.scan]
  · have hBefore := linesBefore_reads r fallback (r.steps.take i)
    have hBlock := indentedBlock_closed (i + 1) r.steps[i]
    refine ⟨?_, ?_, ?_, fun stack => ?_⟩
    · have hSteps : r.steps = r.steps.take i ++ r.steps[i] :: r.steps.drop (i + 1) := by
        simp
      have hLength : (r.steps.take i).length = i := by simp
      have hAround := lines_around hSteps fallback
      rw [hLength] at hAround
      exact ⟨_, hAround⟩
    · rw [scan_textOf, hBefore.scan]
    · rw [scan_textOf, (hBefore.append (hBlock _)).scan]
    · rw [scan_textOf, (hBlock stack).scan]

end SessionReplay.Script
