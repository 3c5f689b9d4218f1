import SessionReplay.Program.Shell.Arithmetic
import SessionReplay.Program.Shell.Builtin
import SessionReplay.Program.Shell.Nested
import SessionReplay.Program.Shell.Reader
import SessionReplay.Program.Shell.Redirect
import SessionReplay.Program.Shell.Tool

/-!
# Running shell scripts

Part of what stands in for the programs of a host; no result rests on it.

* `expandWords`: the fields that words become.
* `runCommand`: the state behind a command whose words are expanded.
* `runScript`: the state behind a script.
* `runShell`: the state behind a shell that is started with arguments.

The first argument bounds the depth of nesting and the number of repetitions; a script that goes
beyond it does not come to an end.
-/

namespace SessionReplay.Shell

def runLimit : Nat := 100000

def dropNewlines (s : String) : String :=
  String.ofList (s.toList.reverse.dropWhile (· == '\n')).reverse

/-- The value of a variable in a sum. -/
def integerOf (s : Shell) (name : String) : Int :=
  ((s.value? name).bind fun v => v.trimAscii.toString.toInt?).getD 0

/-- Adds a value to the fields of a word. -/
def addValue (s : Shell) (splits inQuotes : Bool) (f : Fields) (value : String) : Fields :=
  if inQuotes then f.add (glyphs true value)
  else if splits then f.addSplit s.separators value
  else f.add (glyphs false value)

/-- Adds the arguments of the shell. -/
def addArgs (s : Shell) (splits inQuotes joins : Bool) (f : Fields) : Fields :=
  if !splits || (joins && inQuotes) then f.add (glyphs inQuotes s.joinedArgs)
  else if inQuotes then f.addEach true s.args
  else
    match s.args with
    | [] => f
    | first :: rest =>
      rest.foldl (fun (f : Fields) a => f.close.addSplit s.separators a)
        (f.addSplit s.separators first)

/-- A value that counts as given. -/
def given (evenIfEmpty : Bool) (value : Option String) : Bool :=
  match value with
  | some v => !(evenIfEmpty && v.isEmpty)
  | none => false

/-- Where the options of a shell end: whether its script is given as an argument, its options, and
the other arguments. -/
def shellArgs (isGiven : Bool) (options : Options) : List String → Bool × Options × List String
  | [] => (isGiven, options, [])
  | first :: rest =>
    match first.toList with
    | '-' :: c :: letters =>
      let letters := c :: letters
      shellArgs (isGiven || letters.contains 'c') (letters.foldl (setLetter true) options) rest
    | _ => (isGiven, options, first :: rest)

/-- The words of a text, none of them quoted. -/
def wordsOf (bytes : ByteArray) : List String :=
  (splitValue [' ', '\t', '\n'] (valueOf bytes)).pieces

mutual

/-- The fields of a word whose parts are left. Values are split if `splits`. -/
def expandParts : Nat → Bool → List Part → Fields → Shell → Fields × Shell
  | 0, _, _, f, s => (f, s)
  | _ + 1, _, [], f, s => (f, s)
  | fuel + 1, splits, part :: rest, f, s =>
    let (f, s) := expandPart fuel splits part f s
    match part, rest, s.args, s.stopped with
    | _, _, _, some _ => (f, s)
    | .quoted "", .parameter "@" none true :: more, [], _ =>
      expandParts fuel splits more (if f.fields == [[]] then {} else f) s
    | _, _, _, _ => expandParts fuel splits rest f s

def expandPart : Nat → Bool → Part → Fields → Shell → Fields × Shell
  | 0, _, _, f, s => (f, s)
  | fuel + 1, splits, part, f, s =>
    match part with
    | .plain text => (f.add (glyphs false text), s)
    | .quoted text => (f.add (glyphs true text), s)
    | .parameter name modifier inQuotes =>
      let value := s.parameter? name
      let isList := name = "@" || name = "*"
      match modifier with
      | none =>
        if isList then (addArgs s splits inQuotes (name = "*") f, s)
        else if value.isNone && s.options.stopsOnUnset then
          (f, (s.report 2 (name ++ ": parameter not set")).stop .left)
        else (addValue s splits inQuotes f (value.getD ""), s)
      | some (modifier, word) =>
        let value := if isList then if s.args.isEmpty then none else some s.joinedArgs else value
        expandModified fuel splits inQuotes name value modifier word f s
    | .arithmetic text =>
      let (sum, s) := expandWhole fuel ((partsInQuotes .ignored text.toList).getD []) s
      match Arithmetic.value? (integerOf s) (textOf sum) with
      | some (n, sets) =>
        let s := sets.reverse.foldl (fun (s : Shell) set => s.setVariable set.1 (toString set.2)) s
        (f.add (glyphs false (toString n)), s)
      | none => (f, (s.report 2 "arithmetic expression: expecting primary").stop .left)
    | .output script inQuotes =>
      let (n, opened) := s.inside.openStream
      let (bytes, inner) := (runPart fuel (runText fuel script) opened).closeStream n
      let s := afterNested s { inner with input := s.input }
      (addValue s splits inQuotes f (dropNewlines (valueOf bytes)), s)

/-- What a modifier makes of a value. -/
def expandModified : Nat → Bool → Bool → String → Option String → Modifier → String → Fields →
    Shell → Fields × Shell
  | 0, _, _, _, _, _, _, f, s => (f, s)
  | fuel + 1, splits, inQuotes, name, value, modifier, word, f, s =>
    let parts := ((if inQuotes then partsInQuotes .ignored else wholeWord) word.toList).getD []
    let own := addValue s splits inQuotes f (value.getD "")
    match modifier with
    | .length => (addValue s splits inQuotes f (toString (value.getD "").length), s)
    | .orElse evenIfEmpty =>
      if given evenIfEmpty value then (own, s) else expandParts fuel splits parts f s
    | .ifGiven evenIfEmpty =>
      if given evenIfEmpty value then expandParts fuel splits parts f s else (f, s)
    | .orSet evenIfEmpty =>
      if given evenIfEmpty value then (own, s)
      else
        let (gs, s) := expandWhole fuel parts s
        (addValue s splits inQuotes f (textOf gs), s.setVariable name (textOf gs))
    | .orFail evenIfEmpty =>
      if given evenIfEmpty value then (own, s)
      else
        let (gs, s) := expandWhole fuel parts s
        let reason := if gs.isEmpty then "parameter not set" else textOf gs
        (f, (s.report 2 (name ++ ": " ++ reason)).stop .left)
    | .withoutFront longest =>
      let (gs, s) := expandWhole fuel ((wholeWord word.toList).getD []) s
      (addValue s splits inQuotes f (withoutFront longest gs (value.getD "")), s)
    | .withoutBack longest =>
      let (gs, s) := expandWhole fuel ((wholeWord word.toList).getD []) s
      (addValue s splits inQuotes f (withoutBack longest gs (value.getD "")), s)

/-- A word as one text. -/
def expandWhole : Nat → Word → Shell → Glyphs × Shell
  | 0, _, s => ([], s)
  | fuel + 1, w, s =>
    let (f, s) := expandParts fuel false w {} s
    (f.toList.flatten, s)

def expandWords : Nat → List Word → Shell → List String × Shell
  | 0, _, s => ([], s)
  | _ + 1, [], s => ([], s)
  | fuel + 1, w :: rest, s =>
    let (f, s) := expandParts fuel true w {} s
    if s.stopped.isSome then ([], s)
    else
      let found := f.toList.flatMap (pathsOf s.disk)
      let (more, s) := expandWords fuel rest s
      (found ++ more, s)

/-- Sets variables in order. -/
def setAll : Nat → List (String × Word) → Shell → Shell
  | 0, _, s => s
  | _ + 1, [], s => s
  | fuel + 1, (name, w) :: rest, s =>
    let (gs, s) := expandWhole fuel w s
    if s.stopped.isSome then s else setAll fuel rest (s.setVariable name (textOf gs))

/-- Follows redirections; a shell for which one of them fails is none. -/
def redirect : Nat → List Redirection → Shell → Option Shell × Shell
  | 0, _, s => (none, s)
  | _ + 1, [], s => (some s, s)
  | fuel + 1, r :: rest, s =>
    let (gs, s) := expandWhole fuel r.target s
    match redirectTo r.direction r.stream (textOf gs) s with
    | .ok s => redirect fuel rest s
    | .error reason => (none, s.report 2 reason)

/-- A part of a script with redirections, which end with it. -/
def redirected : Nat → List Redirection → (Shell → Shell) → Shell → Shell
  | 0, _, _, s => s
  | fuel + 1, redirections, body, s =>
    match redirect fuel redirections s with
    | (none, failed) => { failed with routes := s.routes, input := s.input }
    | (some opened, _) =>
      let after := body opened
      let reads := redirections.any (·.stream == 0)
      { after with routes := s.routes, input := if reads then s.input else after.input }

/-- A part of a script in a shell of its own, with what that does at its end. -/
def runPart : Nat → (Shell → Shell) → Shell → Shell
  | 0, _, s => s
  | fuel + 1, part, s =>
    let after := part s
    match outlasting after.stopped, after.trap? "EXIT" with
    | none, some action =>
      let last := runText fuel action { after.withoutTrap "EXIT" with stopped := none }
      if last.stopped.isSome then last else { last with status := after.status }
    | _, _ => after

/-- The signals that have arrived are dealt with one after the other. -/
def settle : Nat → Shell → Shell
  | 0, s => s
  | fuel + 1, s =>
    match s.signals with
    | [] => s
    | name :: rest =>
      let s := { s with signals := rest }
      match (if name = "KILL" then none else s.trap? name) with
      | some action =>
        let after := runText fuel action s
        if after.stopped.isSome then after else settle fuel { after with status := s.status }
      | none => if isHarmless name then settle fuel s else s.stop (.killed (signalNumber name))

/-- A function, with arguments and variables of its own. -/
def callFunction : Nat → Script → Tool
  | 0, _, _, s => s
  | fuel + 1, body, args, s =>
    let after := runScript fuel body { s with args := args, locals := [], loops := 0 }
    let after : Shell :=
      { restoreLocals after with args := s.args, locals := s.locals, loops := s.loops }
    if after.stopped = some .returned then { after with stopped := none } else after

/-- A program that is started by its name or path. -/
def runProgram : Nat → String → Tool
  | 0, _, _, s => s
  | fuel + 1, name, args, s =>
    match withoutFolder name, args with
    | "env", args =>
      let settings := args.takeWhile fun a => a.toList.contains '=' || isFlag a
      let child :=
        if settings.contains "-i" then { s.childOf with environment := [], exported := [] }
        else s.childOf
      let child := eachSetting exportVariable settings child
      match args.drop settings.length with
      | [] => afterChild s (printVariables [] child)
      | command :: args => afterChild s (runProgram fuel command args child)
    | "nohup", command :: args => runProgram fuel command args s
    | "timeout", limit :: command :: args =>
      let limit := s.time + (millisOf? limit).getD 0
      let inner := runProgram fuel command args
        { s.childOf with deadline := some (min limit (s.deadline.getD limit)) }
      if inner.stopped = some .tooLate then
        ({ takeEffects s inner with time := s.time }.waitUntil limit).exit 124
      else afterChild s inner
    | "xargs", args =>
      let words := wordsOf s.input
      runProgram fuel (args.head?.getD "echo") (args.tail ++ words)
        { s with input := ByteArray.empty }
    | _, _ =>
      if isShell name then afterChild s (runShell fuel args { s.childOf with name := name })
      else
        match program? name with
        | some tool => tool args s
        | none =>
          if name.toList.contains '/' && s.disk.has name then
            s.report 126 (name ++ ": Permission denied")
          else s.report 127 (name ++ ": not found")

/-- A command whose words are expanded. -/
def runCommand : Nat → String → Tool
  | 0, _, _, s => s
  | fuel + 1, name, args, s =>
    match s.functions.find? (·.1 == name) with
    | some (_, body) => callFunction fuel body args s
    | none => runPlain fuel name args s

/-- A command that is no function. -/
def runPlain : Nat → String → Tool
  | 0, _, _, s => s
  | fuel + 1, name, args, s =>
    match name, args with
    | "eval", args => runText fuel (String.intercalate " " args) s
    | ".", path :: _ =>
      match (s.disk.readText path).toOption with
      | some script =>
        let after := runText fuel script s
        if after.stopped = some .returned then { after with stopped := none } else after
      | none => (s.report 2 (".: cannot open " ++ path ++ ": No such file")).stop .left
    | "exec", command :: args => (runProgram fuel command args { s with traps := [] }).stop .left
    | "command", ["-v", command] | "type", [command] | "which", [command] =>
      if (builtin? command).isSome || isProgram command then s.writeText (command ++ "\n")
      else s.exit 127
    | "command", command :: args => runPlain fuel command args s
    | _, _ =>
      match builtin? name <|> tool? name with
      | some tool => settle fuel (tool args s)
      | none => runProgram fuel name args s

/-- A shell that is started with arguments. -/
def runShell : Nat → List String → Shell → Shell
  | 0, _, s => s
  | fuel + 1, args, s =>
    let (isGiven, options, args) := shellArgs false {} args
    let s := { s with options := options }
    match isGiven, args with
    | true, script :: name :: args =>
      runPart fuel (runText fuel script) { s with name := name, args := args }
    | true, [script] => runPart fuel (runText fuel script) s
    | true, [] => s.complain 2 (s.name ++ ": 0: -c requires an argument")
    | false, path :: args =>
      match (readSource 0 path s).1.toOption.bind String.fromUTF8? with
      | some script => runPart fuel (runText fuel script) { s with name := path, args := args }
      | none => s.complain 2 (s.name ++ ": 0: cannot open " ++ path ++ ": No such file")
    | false, [] =>
      match String.fromUTF8? s.input with
      | some script => runPart fuel (runText fuel script) { s with input := ByteArray.empty }
      | none => s.exit 0

/-- A text is run as far as it is a script. -/
def runText : Nat → String → Shell → Shell
  | 0, _, s => s
  | fuel + 1, text, s =>
    let (script, isWhole) := Script.ofFront text
    let s := runScript fuel script s
    if isWhole || s.stopped.isSome then s else (s.report 2 "Syntax error").stop .left

/-- A command with what stands in front of it. -/
def runSimple : Nat → List (String × Word) → List Word → List Redirection → Shell → Shell
  | 0, _, _, _, s => s
  | fuel + 1, sets, words, redirections, s =>
    let (fields, s) := expandWords fuel words s
    if s.stopped.isSome then s
    else
      match fields with
      | [] =>
        let computes := sets.any fun set => set.2.any fun
          | .output .. => true
          | _ => false
        let s := redirected fuel redirections (setAll fuel sets) s
        if computes || s.stopped.isSome || !redirections.isEmpty then s else s.exit 0
      | ["exec"] =>
        match redirect fuel redirections s with
        | (some opened, _) => opened.exit 0
        | (none, failed) => failed.stop .left
      | name :: args =>
        match redirect fuel redirections s with
        | (none, failed) =>
          let failed := { failed with routes := s.routes, input := s.input }
          if isSpecial name then failed.stop .left else failed
        | (some opened, _) =>
          let names := sets.map (·.1)
          let ready := names.foldl (fun s name => exportVariable name s) (setAll fuel sets opened)
          if ready.stopped.isSome then ready
          else
            let after := runCommand fuel name args ready
            let after := if isSpecial name then after else restore names opened after
            let reads := redirections.any (·.stream == 0)
            { after with routes := s.routes, input := if reads then s.input else after.input }

/-- The script of the first clause that stands for a text. -/
def chooseClause : Nat → String → List (List Word × Script) → Shell → Script × Shell
  | 0, _, _, s => (.nothing, s)
  | _ + 1, _, [], s => (.nothing, s)
  | fuel + 1, text, (patterns, body) :: rest, s =>
    match patterns with
    | [] => chooseClause fuel text rest s
    | pattern :: more =>
      let (gs, s) := expandWhole fuel pattern s
      if matchesPattern gs text then (body, s) else chooseClause fuel text ((more, body) :: rest) s

def runLoop : Nat → Bool → Script → Script → Nat → Shell → Shell
  | 0, _, _, _, _, s => s.stop .endless
  | fuel + 1, wanted, condition, body, last, s =>
    match afterBody (tested (runScript fuel condition) s) with
    | (false, s) => s
    | (true, s) =>
      if (s.status = 0) != wanted then s.exit last
      else
        match afterBody (runScript fuel body s) with
        | (false, s) => s
        | (true, s) => runLoop fuel wanted condition body s.status s

def runScript : Nat → Script → Shell → Shell
  | 0, _, s => s.stop .endless
  | fuel + 1, script, s =>
    if s.stopped.isSome then s
    else
      match script with
      | .nothing => s
      | .command sets words redirections => afterFailure (runSimple fuel sets words redirections s)
      | .sequence first second => runScript fuel second (runScript fuel first s)
      | .both first second =>
        let s := tested (runScript fuel first) s
        if s.status = 0 then runScript fuel second s else s
      | .either first second =>
        let s := tested (runScript fuel first) s
        if s.status = 0 then s else runScript fuel second s
      | .negation script =>
        let s := tested (runScript fuel script) s
        if s.stopped.isSome then s else s.exit (if s.status = 0 then 1 else 0)
      | .pipe first second =>
        let (n, opened) := s.inside.openStream
        let (bytes, a) := (runPart fuel (runScript fuel first) opened).closeStream n
        let b := runPart fuel (runScript fuel second)
          { takeEffects s.inside a with time := s.time, input := bytes }
        let late := if a.stopped = some .endless then none else outlasting a.stopped
        let after := afterNested s
          { b with time := max a.time b.time, input := a.input, stopped := b.stopped <|> late }
        afterFailure after
      | .background script =>
        let number := s.lastNumber + 1
        let inner := runPart fuel (runScript fuel script)
          { s.inside with
            job := number, lastNumber := number, time := s.time + startTime
            input := ByteArray.empty }
        let stopped := match inner.stopped with
          | some (.killed n) => some (.killed n)
          | _ => none
        { takeEffects s inner with
          time := s.time, status := 0, stopped := stopped, lastJob := some number
          jobs := s.jobs ++ [⟨number, inner.time, inner.status⟩] }
      | .nested script redirections =>
        afterFailure (redirected fuel redirections
          (fun s => afterNested s (runPart fuel (runScript fuel script) s.inside)) s)
      | .group script redirections => redirected fuel redirections (runScript fuel script) s
      | .choice condition yes no =>
        let s := tested (runScript fuel condition) s
        if s.stopped.isSome then s
        else if s.status = 0 then runScript fuel yes s
        else runScript fuel no (s.exit 0)
      | .loop wanted condition body => inLoop (runLoop fuel wanted condition body 0) s
      | .each name words body =>
        let (values, s) := match words with
          | some words => expandWords fuel words s
          | none => (s.args, s)
        if s.stopped.isSome then s
        else inLoop (runEach name (runScript fuel body) values) (s.exit 0)
      | .choose subject clauses =>
        let (gs, s) := expandWhole fuel subject s
        if s.stopped.isSome then s
        else
          let (body, s) := chooseClause fuel (textOf gs) clauses (s.exit 0)
          runScript fuel body s
      | .define name body => { s with functions := (name, body) :: s.functions }.exit 0

end

end SessionReplay.Shell
