import SessionReplay.Program.Shell.Syntax

/-!
# Tokens of shell scripts

Part of what stands in for the programs of a host; no result rests on it.

* `Token`: a word, an operator, or the sign of a redirection.
* `readWord`: the word at the front of a text.
* `partsInQuotes`: the parts of a text that is read as if it stood in double quotes.
* `tokens?`: the tokens of a text, none if a quote or bracket is left open.
-/

namespace SessionReplay.Shell

inductive Token where
  | word (w : Word)
  | operator (s : String)
  | redirection (stream : Nat) (direction : Direction)
  deriving DecidableEq, Repr

/-! ## Parts of words -/

def isNameStart (c : Char) : Bool := c.isAlpha || c == '_'

def isNameChar (c : Char) : Bool := c.isAlphanum || c == '_'

/-- Parameters that are named by one character. -/
def isSpecialName (c : Char) : Bool := c.isDigit || "@*#?$!-".toList.contains c

/-- Characters that end a word. -/
def endsWord (c : Char) : Bool := " \t\n;&|()<>".toList.contains c

/-- The text up to the bracket that closes one which is open, and what stands behind it. Brackets
in quotes do not count. -/
def upToClose (opening closing : Char) :
    Nat → List Char → List Char → Option (List Char × List Char)
  | _, _, [] => none
  | depth, done, '\\' :: c :: rest => upToClose opening closing depth (c :: '\\' :: done) rest
  | depth, done, '\'' :: rest =>
    inSingle opening closing depth ('\'' :: done) rest
  | depth, done, '"' :: rest => inDouble opening closing depth ('"' :: done) rest
  | depth, done, c :: rest =>
    if c = closing then
      match depth with
      | 0 => some (done.reverse, rest)
      | d + 1 => upToClose opening closing d (c :: done) rest
    else if c = opening then upToClose opening closing (depth + 1) (c :: done) rest
    else upToClose opening closing depth (c :: done) rest
termination_by _ _ cs => cs.length
where
  inSingle (opening closing : Char) (depth : Nat) (done : List Char) :
      List Char → Option (List Char × List Char)
    | [] => none
    | '\'' :: rest => upToClose opening closing depth ('\'' :: done) rest
    | c :: rest => inSingle opening closing depth (c :: done) rest
  termination_by cs => cs.length
  inDouble (opening closing : Char) (depth : Nat) (done : List Char) :
      List Char → Option (List Char × List Char)
    | [] => none
    | '\\' :: c :: rest => inDouble opening closing depth (c :: '\\' :: done) rest
    | '"' :: rest => upToClose opening closing depth ('"' :: done) rest
    | c :: rest => inDouble opening closing depth (c :: done) rest
  termination_by cs => cs.length

/-- The modifier at the front of a text, and its word. -/
def readModifier? (cs : List Char) : Option (Modifier × List Char) :=
  match cs with
  | ':' :: '-' :: word => some (.orElse true, word)
  | ':' :: '+' :: word => some (.ifGiven true, word)
  | ':' :: '=' :: word => some (.orSet true, word)
  | ':' :: '?' :: word => some (.orFail true, word)
  | '-' :: word => some (.orElse false, word)
  | '+' :: word => some (.ifGiven false, word)
  | '=' :: word => some (.orSet false, word)
  | '?' :: word => some (.orFail false, word)
  | '#' :: '#' :: word => some (.withoutFront true, word)
  | '#' :: word => some (.withoutFront false, word)
  | '%' :: '%' :: word => some (.withoutBack true, word)
  | '%' :: word => some (.withoutBack false, word)
  | _ => none

/-- The name of a parameter at the front of a text. -/
def parameterName (cs : List Char) : List Char :=
  match cs with
  | c :: _ =>
    if isNameStart c then cs.takeWhile isNameChar
    else if c.isDigit then cs.takeWhile Char.isDigit
    else if isSpecialName c then [c] else []
  | [] => []

/-- The parameter of a text between braces. -/
def bracedParameter? (inQuotes : Bool) (cs : List Char) : Option Part :=
  match cs with
  | '#' :: c :: rest =>
    let name := parameterName (c :: rest)
    if name.isEmpty || name.length < rest.length + 1 then none
    else some (.parameter (String.ofList name) (some (.length, "")) inQuotes)
  | _ =>
    let name := parameterName cs
    if name.isEmpty then none
    else
      match cs.drop name.length with
      | [] => some (.parameter (String.ofList name) none inQuotes)
      | rest => (readModifier? rest).map fun (modifier, word) =>
        .parameter (String.ofList name) (some (modifier, String.ofList word)) inQuotes

/-- The part behind a dollar sign. -/
def readDollar (inQuotes : Bool) (cs : List Char) : Option (Part × List Char) :=
  match cs with
  | '(' :: rest => do
    let (script, behind) ← upToClose '(' ')' 0 [] rest
    match script, script.getLast? with
    | '(' :: sum, some ')' => some (.arithmetic (String.ofList sum.dropLast), behind)
    | _, _ => some (.output (String.ofList script) inQuotes, behind)
  | '{' :: rest => do
    let (inner, rest) ← upToClose '{' '}' 0 [] rest
    let part ← bracedParameter? inQuotes inner
    some (part, rest)
  | c :: rest =>
    if isNameStart c then
      let name := cs.takeWhile isNameChar
      some (.parameter (String.ofList name) none inQuotes, cs.drop name.length)
    else if isSpecialName c then some (.parameter c.toString none inQuotes, rest)
    else some (.plain "$", cs)
  | [] => some (.plain "$", [])

/-- The script between backquotes, and what stands behind it. -/
def readBackquoted : List Char → List Char → Option (List Char × List Char)
  | _, [] => none
  | done, '\\' :: c :: rest =>
    if c = '\x60' ∨ c = '\\' ∨ c = '$' then readBackquoted (c :: done) rest
    else readBackquoted (c :: '\\' :: done) rest
  | done, '\x60' :: rest => some (done.reverse, rest)
  | done, c :: rest => readBackquoted (c :: done) rest

/-- What a double quote is in a text whose parts count as quoted. -/
inductive QuoteMark where
  /-- The end of the text. -/
  | ending
  /-- A character like any other. -/
  | ordinary
  | ignored
  deriving DecidableEq, Repr

/-- Characters that lose their meaning behind a backslash in double quotes. -/
def isEscapable (mark : QuoteMark) (c : Char) : Bool :=
  c == '$' || c == '\\' || c == '\x60' || (c == '"' && mark != .ordinary)

/-- The parts inside double quotes, given those before, the last one first. -/
def readDouble (mark : QuoteMark) : Nat → Word → List Char → Option (Word × List Char)
  | 0, _, _ => none
  | fuel + 1, done, cs =>
    match cs with
    | [] => if mark = .ending then none else some (done, [])
    | '\\' :: '\n' :: rest => readDouble mark fuel done rest
    | '\\' :: c :: rest =>
      let text := if isEscapable mark c then c.toString else String.ofList ['\\', c]
      readDouble mark fuel (.quoted text :: done) rest
    | '$' :: rest => do
      let (part, rest) ← readDollar true rest
      let part := match part with
        | .plain s => .quoted s
        | part => part
      readDouble mark fuel (part :: done) rest
    | '\x60' :: rest => do
      let (script, rest) ← readBackquoted [] rest
      readDouble mark fuel (.output (String.ofList script) true :: done) rest
    | c :: rest =>
      match c == '"', mark with
      | true, .ending => some (done, rest)
      | true, .ignored => readDouble mark fuel done rest
      | _, _ => readDouble mark fuel (.quoted c.toString :: done) rest

def partsInQuotes (mark : QuoteMark) (cs : List Char) : Option Word :=
  (readDouble mark (cs.length + 1) [] cs).map fun (reversed, _) => reversed.reverse

/-- The parts up to the first character that ends a word. -/
def readParts (isEnd : Char → Bool) : Nat → Word → List Char → Option (Word × List Char)
  | 0, _, _ => none
  | fuel + 1, done, cs =>
    match cs with
    | [] => some (done, [])
    | '\'' :: rest =>
      let text := rest.takeWhile (· != '\'')
      match rest.dropWhile (· != '\'') with
      | _ :: rest => readParts isEnd fuel (.quoted (String.ofList text) :: done) rest
      | [] => none
    | '"' :: rest => do
      let (done, rest) ← readDouble .ending fuel (.quoted "" :: done) rest
      readParts isEnd fuel done rest
    | '\\' :: '\n' :: rest => readParts isEnd fuel done rest
    | '\\' :: c :: rest => readParts isEnd fuel (.quoted c.toString :: done) rest
    | '$' :: rest => do
      let (part, rest) ← readDollar false rest
      readParts isEnd fuel (part :: done) rest
    | '\x60' :: rest => do
      let (script, rest) ← readBackquoted [] rest
      readParts isEnd fuel (.output (String.ofList script) false :: done) rest
    | c :: rest =>
      if isEnd c then some (done, cs)
      else
        match done with
        | .plain s :: done => readParts isEnd fuel (.plain (s.push c) :: done) rest
        | _ => readParts isEnd fuel (.plain c.toString :: done) rest

/-- The word at the front of a text. -/
def readWord (cs : List Char) : Option (Word × List Char) :=
  (readParts endsWord (cs.length + 1) [] cs).map fun (reversed, rest) => (reversed.reverse, rest)

/-- The parts of a text that is one word as a whole. -/
def wholeWord (cs : List Char) : Option Word :=
  (readParts (fun _ => false) (cs.length + 1) [] cs).map fun (reversed, _) => reversed.reverse

/-! ## Tokens -/

/-- The sign of a redirection without its stream, and what stands behind it. -/
def readDirection : List Char → Option (Direction × List Char)
  | '>' :: '>' :: rest => some (.behind, rest)
  | '>' :: '&' :: rest => some (.copy, rest)
  | '>' :: '|' :: rest => some (.into, rest)
  | '>' :: rest => some (.into, rest)
  | '<' :: '<' :: rest => some (.here, rest)
  | '<' :: '&' :: rest => some (.copy, rest)
  | '<' :: rest => some (.from, rest)
  | _ => none

def usualStream : Direction → Nat
  | .from | .here => 0
  | _ => 1

def readOperator : List Char → Option (String × List Char)
  | '&' :: '&' :: rest => some ("&&", rest)
  | '|' :: '|' :: rest => some ("||", rest)
  | ';' :: ';' :: rest => some (";;", rest)
  | ';' :: rest => some (";", rest)
  | '\n' :: rest => some ("\n", rest)
  | '&' :: rest => some ("&", rest)
  | '|' :: rest => some ("|", rest)
  | '(' :: rest => some ("(", rest)
  | ')' :: rest => some (")", rest)
  | _ => none

/-- A word as a text whose quotes are gone, and whether it had any. -/
def unquoted (w : Word) : String × Bool :=
  w.foldl (fun (text, wasQuoted) part =>
    match part with
    | .plain s => (text ++ s, wasQuoted)
    | .quoted s => (text ++ s, true)
    | .parameter name _ _ => (text ++ "$" ++ name, wasQuoted)
    | _ => (text, wasQuoted)) ("", false)

/-- The lines up to one that is the delimiter, and what stands behind that. Tabs in front of lines
may not count. -/
def readLines (delimiter : List Char) (skipsTabs : Bool) : Nat → List Char → List Char × List Char
  | 0, cs => (cs, [])
  | _ + 1, [] => ([], [])
  | fuel + 1, cs =>
    let cs := if skipsTabs then cs.dropWhile (· == '\t') else cs
    let line := cs.takeWhile (· != '\n')
    let rest := cs.drop (line.length + 1)
    if line = delimiter then ([], rest)
    else
      let (more, rest) := readLines delimiter skipsTabs fuel rest
      (line ++ '\n' :: more, rest)

/-- The text that is given behind the line of a redirection: its word, and the rest of the line
with what stands behind that text. -/
def readHere (cs : List Char) : Option (Word × List Char) := do
  let skipsTabs := cs.head? == some '-'
  let cs := if skipsTabs then cs.drop 1 else cs
  let (delimiter, rest) ← readWord (cs.dropWhile fun c => c == ' ' || c == '\t')
  let (delimiter, isQuoted) := unquoted delimiter
  let line := rest.takeWhile (· != '\n')
  let (text, behind) :=
    readLines delimiter.toList skipsTabs rest.length (rest.drop (line.length + 1))
  let word ← if isQuoted then some [.quoted (String.ofList text)] else partsInQuotes .ordinary text
  some (word, line ++ '\n' :: behind)

/-- The tokens at the front of a text that does not begin with a blank. -/
def readTokens (cs : List Char) : Option (List Token × List Char) :=
  match readOperator cs with
  | some (s, rest) => some ([.operator s], rest)
  | none =>
    let digits := cs.takeWhile Char.isDigit
    match readDirection (cs.drop digits.length) with
    | some (direction, rest) =>
      let stream := if digits.isEmpty then usualStream direction
        else digits.foldl (fun n c => 10 * n + (c.toNat - 48)) 0
      let sign := Token.redirection stream direction
      if direction = .here then
        (readHere rest).map fun (w, rest) => ([sign, .word w], rest)
      else some ([sign], rest)
    | none => (readWord cs).map fun (w, rest) => ([.word w], rest)

def tokensFrom : Nat → List Char → Option (List Token)
  | 0, _ => none
  | fuel + 1, cs =>
    match cs with
    | [] => some []
    | ' ' :: rest => tokensFrom fuel rest
    | '\t' :: rest => tokensFrom fuel rest
    | '\\' :: '\n' :: rest => tokensFrom fuel rest
    | '#' :: rest => tokensFrom fuel (rest.dropWhile (· != '\n'))
    | _ => do
      let (front, rest) ← readTokens cs
      let more ← tokensFrom fuel rest
      some (front ++ more)

/-- Every step takes a character at least. -/
def tokens? (text : String) : Option (List Token) :=
  tokensFrom (text.toList.length + 2) text.toList

end SessionReplay.Shell
