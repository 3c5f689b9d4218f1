import Mathlib.Data.List.Basic

/-!
# Reading a script

What of the lexical grammar of ECMAScript 2019 counts for generated scripts: string literals
between single quotes, comments behind two slashes, and all other characters. Scripts are modules,
so that their code is strict.

* `Token`, `Mode.step`, `run`: one pass over the characters.
* `lex`: the tokens of a text, none where a literal is not valid or not closed in its line.
* `nest`: the brackets that are open behind some tokens, none where one closes another's.
* `scan`: the open brackets behind a text that leaves neither a literal nor a comment open.
* `textOf`, `splitOn_textOf`: the text of lines comes apart into them again.
-/

namespace SessionReplay.Script

/-! ## Characters -/

/-- The line breaks that a literal may not hold. -/
def isLineBreak (c : Char) : Bool := c = '\n' || c = '\r'

theorem isLineBreak_eq_false_iff {c : Char} : isLineBreak c = false ↔ c ≠ '\n' ∧ c ≠ '\r' := by
  simp [isLineBreak]

/-- The line terminators of ECMAScript, all of which end a comment. -/
def isLineTerminator (c : Char) : Bool := isLineBreak c || c = '\u2028' || c = '\u2029'

/-- The code units of a code point. -/
def unitsOf (n : Nat) : List UInt16 :=
  if n < 0x10000 then [n.toUInt16]
  else [(0xD800 + (n - 0x10000) / 0x400).toUInt16, (0xDC00 + (n - 0x10000) % 0x400).toUInt16]

def hexDigit? (c : Char) : Option Nat :=
  if c.isDigit then some (c.toNat - '0'.toNat)
  else if 'a' ≤ c ∧ c ≤ 'f' then some (c.toNat - 'a'.toNat + 10)
  else if 'A' ≤ c ∧ c ≤ 'F' then some (c.toNat - 'A'.toNat + 10)
  else none

/-! ## Tokens -/

inductive Token where
  /-- A string literal with the code units of its value. -/
  | literal (value : List UInt16)
  | comment
  /-- A character that belongs to neither. -/
  | code (c : Char)
  deriving DecidableEq, Repr

/-- Where reading stands. Inside a literal it carries the value that was read so far. -/
inductive Mode where
  | code
  /-- Behind a slash, which begins a comment if another one follows. -/
  | slash
  | comment
  | literal (value : List UInt16)
  /-- Behind a backslash. -/
  | escape (value : List UInt16)
  /-- Behind an escaped zero, which no digit may follow. -/
  | zero (value : List UInt16)
  /-- In an escape of a code unit, with the number of digits that are left. -/
  | hex (value : List UInt16) (left number : Nat)
  | unicode (value : List UInt16)
  /-- In an escape of a code point between braces. -/
  | braced (value : List UInt16) (number : Option Nat)
  deriving DecidableEq, Repr

namespace Mode

def stepLiteral (value : List UInt16) (c : Char) : Option (Mode × List Token) :=
  if c = '\'' then some (code, [.literal value])
  else if c = '\\' then some (escape value, [])
  else if isLineBreak c then none
  else some (literal (value ++ unitsOf c.toNat), [])

/-- The code point that a single escaped character stands for. -/
def escaped (c : Char) : Nat :=
  match c with
  | 'b' => 0x8
  | 't' => 0x9
  | 'n' => 0xA
  | 'v' => 0xB
  | 'f' => 0xC
  | 'r' => 0xD
  | c => c.toNat

/-- No escape continues a literal in the next line. -/
def stepEscape (value : List UInt16) (c : Char) : Option Mode :=
  if c = 'x' then some (hex value 2 0)
  else if c = 'u' then some (unicode value)
  else if c = '0' then some (zero (value ++ [0]))
  else if c.isDigit || isLineTerminator c then none
  else some (literal (value ++ unitsOf (escaped c)))

def stepHex (value : List UInt16) (left number : Nat) (c : Char) : Option Mode :=
  (hexDigit? c).map fun digit =>
    if left ≤ 1 then literal (value ++ [(16 * number + digit).toUInt16])
    else hex value (left - 1) (16 * number + digit)

def stepBraced (value : List UInt16) (number : Option Nat) (c : Char) : Option Mode :=
  if c = '}' then number.map fun n => literal (value ++ unitsOf n)
  else
    match hexDigit? c with
    | some digit =>
      let n := 16 * number.getD 0 + digit
      if n ≤ 0x10FFFF then some (braced value (some n)) else none
    | none => none

/-- The next mode, and the tokens that are complete. `ends` says what ends a comment. -/
def step (ends : Char → Bool) (mode : Mode) (c : Char) : Option (Mode × List Token) :=
  match mode with
  | code =>
    if c = '\'' then some (literal [], [])
    else if c = '/' then some (slash, [])
    else some (code, [.code c])
  | slash =>
    if c = '/' then some (comment, [])
    else if c = '\'' then some (literal [], [.code '/'])
    else some (code, [.code '/', .code c])
  | comment => if ends c then some (code, [.comment, .code c]) else some (comment, [])
  | literal value => stepLiteral value c
  | escape value => (stepEscape value c).map (·, [])
  | zero value => if c.isDigit then none else stepLiteral value c
  | hex value left number => (stepHex value left number c).map (·, [])
  | unicode value =>
    if c = '\x7b' then some (braced value none, []) else (stepHex value 4 0 c).map (·, [])
  | braced value number => (stepBraced value number c).map (·, [])

/-- The token that the end of a text completes. -/
def finish : Mode → Option (List Token)
  | code => some []
  | slash => some [.code '/']
  | comment => some [.comment]
  | _ => none

end Mode

/-- The mode behind a text that begins in a mode, and the tokens that are complete. -/
def run (ends : Char → Bool) : Mode → List Char → Option (Mode × List Token)
  | mode, [] => some (mode, [])
  | mode, c :: cs =>
    match mode.step ends c with
    | none => none
    | some (next, tokens) => (run ends next cs).map fun (last, more) => (last, tokens ++ more)

/-- The tokens of a text. -/
def lex (ends : Char → Bool) (cs : List Char) : Option (List Token) :=
  (run ends .code cs).bind fun (mode, tokens) => mode.finish.map (tokens ++ ·)

theorem run_append (ends : Char → Bool) (mode : Mode) (before after : List Char) :
    run ends mode (before ++ after) = (run ends mode before).bind fun (next, tokens) =>
      (run ends next after).map fun (last, more) => (last, tokens ++ more) := by
  induction before generalizing mode with
  | nil => simp [run]
  | cons c before ih =>
    rw [List.cons_append]
    simp only [run]
    cases mode.step ends c with
    | none => rfl
    | some next =>
      dsimp only
      rw [ih]
      cases run ends next.1 before with
      | none => rfl
      | some middle =>
        simp [Option.map_map, Function.comp_def]

/-! ## Brackets -/

/-- The brackets that are still to be closed, the next one first, behind one more token. -/
def Token.nest (stack : List Char) : Token → Option (List Char)
  | .code '(' => some (')' :: stack)
  | .code '[' => some (']' :: stack)
  | .code '\x7b' => some ('\x7d' :: stack)
  | .code c =>
    if c = ')' ∨ c = ']' ∨ c = '\x7d' then
      match stack with
      | top :: rest => if top = c then some rest else none
      | [] => none
    else some stack
  | _ => some stack

def nest (stack : List Char) (tokens : List Token) : Option (List Char) :=
  tokens.foldlM Token.nest stack

/-- The brackets that are to be closed behind a text, given those before it. -/
def scan (stack : List Char) (cs : List Char) : Option (List Char) :=
  match run isLineBreak .code cs with
  | some (.code, tokens) => nest stack tokens
  | _ => none

theorem nest_append (stack : List Char) (before after : List Token) :
    nest stack (before ++ after) = (nest stack before).bind fun next => nest next after := by
  simp [nest, List.foldlM_append]

theorem scan_of_run {stack : List Char} {cs : List Char} {tokens : List Token}
    (h : run isLineBreak .code cs = some (.code, tokens)) : scan stack cs = nest stack tokens := by
  simp [scan, h]

theorem scan_append {stack next : List Char} {before : List Char}
    (h : scan stack before = some next) (after : List Char) :
    scan stack (before ++ after) = scan next after := by
  unfold scan at h
  split at h
  · next tokens hRun =>
    unfold scan
    rw [run_append, hRun]
    simp only [Option.bind_some]
    cases run isLineBreak .code after with
    | none => rfl
    | some last =>
      obtain ⟨mode, more⟩ := last
      cases mode <;> simp [nest_append, h]
  · contradiction

/-! ## Lines -/

/-- Behind a line feed there is code. -/
theorem eq_code_of_step {mode next : Mode} {tokens : List Token}
    (h : mode.step isLineBreak '\n' = some (next, tokens)) : next = .code := by
  cases mode with
  | code =>
    simp only [Mode.step] at h
    exact (Prod.mk.inj (Option.some.inj h)).1.symm
  | slash =>
    simp only [Mode.step] at h
    exact (Prod.mk.inj (Option.some.inj h)).1.symm
  | comment =>
    simp only [Mode.step] at h
    exact (Prod.mk.inj (Option.some.inj h)).1.symm
  | literal value => simp [Mode.step, Mode.stepLiteral, isLineBreak] at h
  | escape value => simp [Mode.step, Mode.stepEscape, isLineTerminator, isLineBreak] at h
  | zero value => simp [Mode.step, Mode.stepLiteral, isLineBreak] at h
  | hex value left number => simp [Mode.step, Mode.stepHex, hexDigit?] at h
  | unicode value => simp [Mode.step, Mode.stepHex, hexDigit?] at h
  | braced value number => simp [Mode.step, Mode.stepBraced, hexDigit?] at h

theorem eq_code_of_run {mode last : Mode} {tokens : List Token} {cs : List Char}
    (h : run isLineBreak mode (cs ++ ['\n']) = some (last, tokens)) : last = .code := by
  rw [run_append] at h
  obtain ⟨⟨next, first⟩, -, hLast⟩ := Option.bind_eq_some_iff.1 h
  obtain ⟨⟨mode', more⟩, hRun, hEq⟩ := Option.map_eq_some_iff.1 hLast
  obtain ⟨rfl, -⟩ := Prod.mk.inj hEq
  simp only [run] at hRun
  split at hRun
  · contradiction
  · next hStep =>
    obtain ⟨rfl, -⟩ := Prod.mk.inj (Option.some.inj hRun)
    exact eq_code_of_step hStep

/-- The brackets that are to be closed behind a line and its line feed. -/
def scanLine (stack : List Char) (line : String) : Option (List Char) :=
  scan stack (line.toList ++ ['\n'])

def scanLines (stack : List Char) (lines : List String) : Option (List Char) :=
  lines.foldlM scanLine stack

/-- The characters of lines, with a line feed behind each of them. -/
def textOf (lines : List String) : List Char := lines.flatMap fun line => line.toList ++ ['\n']

theorem splitOn_textOf {lines : List String} (h : ∀ line ∈ lines, '\n' ∉ line.toList) :
    (textOf lines).splitOn '\n' = lines.map String.toList ++ [[]] := by
  induction lines with
  | nil => rfl
  | cons line lines ih =>
    rw [List.forall_mem_cons] at h
    rw [textOf, List.flatMap_cons, ← textOf, List.append_assoc, List.singleton_append,
      List.splitOn_append_cons_self_of_not_mem h.1, ih h.2]
    rfl

/-- A line is read before what follows it, whatever it holds. -/
theorem scan_line_append (stack : List Char) (line : String) (rest : List Char) :
    scan stack (line.toList ++ ['\n'] ++ rest) =
      (scanLine stack line).bind fun next => scan next rest := by
  cases hLine : scanLine stack line with
  | some next => exact scan_append hLine rest
  | none =>
    unfold scanLine scan at hLine
    unfold scan
    rw [run_append]
    cases hRun : run isLineBreak .code (line.toList ++ ['\n']) with
    | none => rfl
    | some first =>
      obtain ⟨mode, tokens⟩ := first
      obtain rfl := eq_code_of_run hRun
      simp only [hRun] at hLine
      simp only [Option.bind_some]
      cases run isLineBreak .code rest with
      | none => rfl
      | some last =>
        obtain ⟨mode, more⟩ := last
        cases mode <;> simp [nest_append, hLine]

theorem scan_textOf (stack : List Char) (lines : List String) :
    scan stack (textOf lines) = scanLines stack lines := by
  induction lines generalizing stack with
  | nil => rfl
  | cons line lines ih =>
    rw [textOf, List.flatMap_cons, scan_line_append, scanLines, List.foldlM_cons]
    exact congrArg _ (funext fun next => ih next)

theorem scanLines_append (stack : List Char) (before after : List String) :
    scanLines stack (before ++ after) =
      (scanLines stack before).bind fun next => scanLines next after := by
  simp [scanLines, List.foldlM_append]

/-- An indent does not change how a line is read. -/
theorem scanLine_indent {indent : String}
    (hIndent : ∀ stack, scan stack indent.toList = some stack) (stack : List Char)
    (line : String) : scanLine stack (indent ++ line) = scanLine stack line := by
  rw [scanLine, String.toList_append, List.append_assoc, scan_append (hIndent stack)]
  rfl

theorem scanLines_indent {indent : String}
    (hIndent : ∀ stack, scan stack indent.toList = some stack) (stack : List Char)
    (lines : List String) :
    scanLines stack (lines.map (indent ++ ·)) = scanLines stack lines := by
  have hLine : (fun stack line => scanLine stack (indent ++ line)) = scanLine := by
    funext stack line
    exact scanLine_indent hIndent stack line
  rw [scanLines, List.foldlM_map, hLine]
  rfl

end SessionReplay.Script
