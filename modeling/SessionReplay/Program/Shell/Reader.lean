import SessionReplay.Program.Shell.Token

/-!
# Reading shell scripts

Part of what stands in for the programs of a host; no result rests on it.

* `Script.ofText?`: the script in a text, none if it is not well formed.
* `Script.ofFront`: as many lines of a text as are a script, and whether these are all.
-/

namespace SessionReplay.Shell

abbrev Tokens := List Token

/-- A token that is a word without quotes and parameters. -/
def Token.literal? : Token → Option String
  | .word w => w.literal?
  | _ => none

/-- Words that end a list of commands where a command could begin. -/
def closingWords : List String := ["then", "else", "elif", "fi", "do", "done", "esac", "\x7d"]

def endsList (tokens : Tokens) : Bool :=
  match tokens with
  | [] => true
  | .operator ")" :: _ | .operator ";;" :: _ => true
  | t :: _ => match t.literal? with
    | some s => closingWords.contains s
    | none => false

def skipLines : Tokens → Tokens
  | .operator "\n" :: rest => skipLines rest
  | tokens => tokens

/-- The tokens behind the end of a command. -/
def skipEnd : Tokens → Tokens
  | .operator ";" :: rest => skipLines rest
  | tokens => skipLines tokens

/-- The tokens behind a word that has to come next. -/
def expect (s : String) (tokens : Tokens) : Option Tokens :=
  match tokens with
  | t :: rest => if t.literal? = some s then some rest else none
  | [] => none

def readRedirections : Tokens → List Redirection × Tokens
  | .redirection stream direction :: .word target :: rest =>
    let (more, rest) := readRedirections rest
    (⟨stream, direction, target⟩ :: more, rest)
  | tokens => ([], tokens)

/-- A script with the redirections that stand behind it. -/
def withRedirections (part : Script × Tokens) : Script × Tokens :=
  let (redirections, rest) := readRedirections part.2
  (.group part.1 redirections, rest)

/-- The setting of a variable in front of a command. -/
def setting? (w : Word) : Option (String × Word) :=
  match w with
  | .plain s :: rest =>
    let name := s.toList.takeWhile isNameChar
    match s.toList.drop name.length with
    | '=' :: value =>
      match name with
      | c :: _ =>
        if isNameStart c then
          let first := if value.isEmpty then [] else [Part.plain (String.ofList value)]
          some (String.ofList name, first ++ rest)
        else none
      | [] => none
    | _ => none
  | _ => none

/-- The words, settings and redirections of a command. -/
def readSimple (sets : List (String × Word)) (words : List Word) (redirections : List Redirection) :
    Tokens → Option (Script × Tokens)
  | .word w :: rest =>
    match (if words.isEmpty then setting? w else none) with
    | some set => readSimple (sets ++ [set]) words redirections rest
    | none => readSimple sets (words ++ [w]) redirections rest
  | .redirection stream direction :: .word target :: rest =>
    readSimple sets words (redirections ++ [⟨stream, direction, target⟩]) rest
  | .redirection .. :: _ => none
  | tokens =>
    if sets.isEmpty && words.isEmpty && redirections.isEmpty then none
    else some (.command sets words redirections, tokens)

/-- The patterns of a clause up to its bracket. -/
def readPatterns : Tokens → Option (List Word × Tokens)
  | .word w :: .operator "|" :: rest =>
    (readPatterns rest).map fun (more, rest) => (w :: more, rest)
  | .word w :: .operator ")" :: rest => some ([w], rest)
  | _ => none

/-- The name of a function whose definition begins here. -/
def defined? : Tokens → Option (String × Tokens)
  | t :: .operator "(" :: .operator ")" :: rest => t.literal?.map (·, rest)
  | _ => none

/-- The words behind `in`. -/
def readWords : Tokens → List Word × Tokens
  | .word w :: rest =>
    let (ws, rest) := readWords rest
    (w :: ws, rest)
  | tokens => ([], tokens)

mutual

/-- The commands up to what ends a list. -/
def readList : Nat → Tokens → Option (Script × Tokens)
  | 0, _ => none
  | fuel + 1, tokens => do
    let tokens := skipLines tokens
    if endsList tokens then some (.nothing, tokens)
    else
      let (first, rest) ← readAndOr fuel tokens
      match rest with
      | .operator ";" :: rest | .operator "\n" :: rest =>
        let (more, rest) ← readList fuel rest
        some (.sequence first more, rest)
      | .operator "&" :: rest =>
        let (more, rest) ← readList fuel rest
        some (.sequence (.background first) more, rest)
      | _ => if endsList rest then some (first, rest) else none

def readAndOr : Nat → Tokens → Option (Script × Tokens)
  | 0, _ => none
  | fuel + 1, tokens => do
    let (first, rest) ← readPipeline fuel tokens
    readAndOrRest fuel first rest

def readAndOrRest : Nat → Script → Tokens → Option (Script × Tokens)
  | 0, _, _ => none
  | fuel + 1, first, tokens =>
    match tokens with
    | .operator "&&" :: rest => do
      let (second, rest) ← readPipeline fuel (skipLines rest)
      readAndOrRest fuel (.both first second) rest
    | .operator "||" :: rest => do
      let (second, rest) ← readPipeline fuel (skipLines rest)
      readAndOrRest fuel (.either first second) rest
    | _ => some (first, tokens)

def readPipeline : Nat → Tokens → Option (Script × Tokens)
  | 0, _ => none
  | fuel + 1, tokens =>
    match expect "!" tokens with
    | some rest => do
      let (script, rest) ← readPipeline fuel rest
      some (.negation script, rest)
    | none => do
      let (first, rest) ← readCommand fuel tokens
      readPipelineRest fuel first rest

def readPipelineRest : Nat → Script → Tokens → Option (Script × Tokens)
  | 0, _, _ => none
  | fuel + 1, first, tokens =>
    match tokens with
    | .operator "|" :: rest => do
      let (second, rest) ← readCommand fuel (skipLines rest)
      readPipelineRest fuel (.pipe first second) rest
    | _ => some (first, tokens)

def readCommand : Nat → Tokens → Option (Script × Tokens)
  | 0, _ => none
  | fuel + 1, tokens =>
    match tokens with
    | .operator "(" :: rest => do
      let (script, rest) ← readList fuel rest
      match rest with
      | .operator ")" :: rest =>
        let (redirections, rest) := readRedirections rest
        some (.nested script redirections, rest)
      | _ => none
    | .operator _ :: _ => none
    | t :: rest =>
      match t.literal? with
      | some "\x7b" => do
        let (script, rest) ← readList fuel rest
        let rest ← expect "\x7d" rest
        let (redirections, rest) := readRedirections rest
        some (.group script redirections, rest)
      | some "if" => withRedirections <$> readIf fuel rest
      | some "while" => withRedirections <$> readLoop fuel true rest
      | some "until" => withRedirections <$> readLoop fuel false rest
      | some "for" => withRedirections <$> readFor fuel rest
      | some "case" => withRedirections <$> readCase fuel rest
      | _ =>
        match defined? tokens with
        | some (name, rest) => do
          let (body, rest) ← readCommand fuel (skipLines rest)
          some (.define name body, rest)
        | none => readSimple [] [] [] tokens
    | [] => none

/-- What stands behind `if` or `elif`. -/
def readIf : Nat → Tokens → Option (Script × Tokens)
  | 0, _ => none
  | fuel + 1, tokens => do
    let (condition, rest) ← readList fuel tokens
    let rest ← expect "then" rest
    let (yes, rest) ← readList fuel rest
    match expect "elif" rest, expect "else" rest with
    | some rest, _ =>
      let (no, rest) ← readIf fuel rest
      some (.choice condition yes no, rest)
    | none, some rest =>
      let (no, rest) ← readList fuel rest
      let rest ← expect "fi" rest
      some (.choice condition yes no, rest)
    | none, none =>
      let rest ← expect "fi" rest
      some (.choice condition yes .nothing, rest)

def readLoop : Nat → Bool → Tokens → Option (Script × Tokens)
  | 0, _, _ => none
  | fuel + 1, wanted, tokens => do
    let (condition, rest) ← readList fuel tokens
    let (body, rest) ← readBody fuel rest
    some (.loop wanted condition body, rest)

/-- A list between `do` and `done`. -/
def readBody : Nat → Tokens → Option (Script × Tokens)
  | 0, _ => none
  | fuel + 1, tokens => do
    let rest ← expect "do" (skipEnd tokens)
    let (body, rest) ← readList fuel rest
    let rest ← expect "done" rest
    some (body, rest)

def readFor : Nat → Tokens → Option (Script × Tokens)
  | 0, _ => none
  | fuel + 1, tokens =>
    match tokens with
    | t :: rest => do
      let name ← t.literal?
      match expect "in" rest with
      | some rest =>
        let (words, rest) := readWords rest
        let (body, rest) ← readBody fuel rest
        some (.each name (some words) body, rest)
      | none =>
        let (body, rest) ← readBody fuel rest
        some (.each name none body, rest)
    | [] => none

def readCase : Nat → Tokens → Option (Script × Tokens)
  | 0, _ => none
  | fuel + 1, tokens =>
    match tokens with
    | .word subject :: rest => do
      let rest ← expect "in" (skipLines rest)
      let (clauses, rest) ← readClauses fuel rest
      some (.choose subject clauses, rest)
    | _ => none

/-- The clauses up to `esac`. -/
def readClauses : Nat → Tokens → Option (List (List Word × Script) × Tokens)
  | 0, _ => none
  | fuel + 1, tokens =>
    let tokens := skipLines tokens
    match expect "esac" tokens with
    | some rest => some ([], rest)
    | none => do
      let tokens := match tokens with
        | .operator "(" :: rest => rest
        | tokens => tokens
      let (patterns, rest) ← readPatterns tokens
      let (body, rest) ← readList fuel rest
      let rest := match rest with
        | .operator ";;" :: rest => rest
        | rest => rest
      let (clauses, rest) ← readClauses fuel rest
      some ((patterns, body) :: clauses, rest)

end

/-- Each token is looked at by a few readers at most. -/
def Script.ofText? (text : String) : Option Script := do
  let tokens ← tokens? text
  let (script, rest) ← readList (8 * tokens.length + 8) tokens
  if rest.isEmpty then some script else none

/-- A text without its last line. -/
def withoutLastLine (cs : List Char) : List Char :=
  ((cs.reverse.dropWhile (· != '\n')).drop 1).reverse

/-- The longest front of a text that is a script, the whole text having been tried. -/
def Script.beforeFault : Nat → List Char → Script
  | 0, _ => .nothing
  | fuel + 1, cs =>
    let front := withoutLastLine cs
    match Script.ofText? (String.ofList front) with
    | some script => script
    | none => beforeFault fuel front

/-- The lines in front of a fault are run before it is found. -/
def Script.ofFront (text : String) : Script × Bool :=
  match Script.ofText? text with
  | some script => (script, true)
  | none => (Script.beforeFault (text.toList.count '\n') text.toList, false)

end SessionReplay.Shell
