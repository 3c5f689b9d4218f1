import SessionReplay.Program.Shell.Fields
import SessionReplay.Program.Shell.Tool.Process

/-!
# What a shell does in itself

Part of what stands in for the programs of a host; no result rests on it.

Commands that change the shell which runs them.

* `builtin?`: the command of a name.
* `isSpecial`: the commands whose redirections have to succeed.
-/

namespace SessionReplay.Shell

/-! ## Leaving -/

/-- A count that may be given, or none if it is not a number. -/
def countOr (fallback : Nat) (args : List String) : Option Nat :=
  match args with
  | [] => some fallback
  | n :: _ => n.toNat?

/-- Ends with the status that is given, or with that of the last command. -/
def leaveWith (command : String) (reason : Stop) : Tool := fun args s =>
  match countOr s.status args with
  | some n => (s.exit n).stop reason
  | none =>
    (s.report 2 (command ++ ": Illegal number: " ++ (args.head?.getD ""))).stop .left

/-- Has no effect outside of loops. -/
def leaveLoops (reason : Nat → Stop) : Tool := fun args s =>
  match countOr 1 args with
  | some n => if s.loops = 0 then s.exit 0 else (s.exit 0).stop (reason (min n s.loops))
  | none => s.exit 2

/-! ## Variables -/

def splitSetting (text : String) : String × Option String :=
  let name := text.toList.takeWhile (· != '=')
  match text.toList.drop name.length with
  | _ :: value => (String.ofList name, some (String.ofList value))
  | [] => (String.ofList name, none)

/-- Sets the variables that come with a value, and does something with all of them. -/
def eachSetting (use : String → Shell → Shell) : Tool := fun args s =>
  (args.filter fun a => !isFlag a).foldl (fun s text =>
    let (name, value) := splitSetting text
    let s := use name s
    match value with
    | some value => s.setVariable name value
    | none => s) (s.exit 0)

/-- Variables that get their old values when the function is left. -/
def makeLocal : Tool :=
  eachSetting fun name s => { s with locals := (name, s.value? name) :: s.locals }

def restoreLocals (s : Shell) : Shell :=
  s.locals.foldl (fun s (name, value) =>
    match value with
    | some value => s.setVariable name value
    | none => s.unsetVariable name) s

def unset : Tool := fun args s =>
  let names := args.filter fun a => !isFlag a
  if args.head? == some "-f" then
    { s with functions := s.functions.filter fun f => !names.contains f.1 }.exit 0
  else (names.foldl (fun s name => s.unsetVariable name) s).exit 0

/-! ## Options and arguments -/

def setLetter (value : Bool) (options : Options) (letter : Char) : Options :=
  match letter with
  | 'e' => { options with stopsOnFailure := value }
  | 'u' => { options with stopsOnUnset := value }
  | _ => options

def setNamed (value : Bool) (options : Options) (name : String) : Options :=
  match name with
  | "errexit" => setLetter value options 'e'
  | "nounset" => setLetter value options 'u'
  | _ => options

/-- Options such as `-eu` and `+o errexit`; what stands behind them are arguments. -/
def set : Tool
  | [], s => s.exit 0
  | "--" :: args, s => { s with args := args }.exit 0
  | "-o" :: name :: rest, s => set rest { s with options := setNamed true s.options name }
  | "+o" :: name :: rest, s => set rest { s with options := setNamed false s.options name }
  | first :: rest, s =>
    match first.toList with
    | '-' :: letters => set rest { s with options := letters.foldl (setLetter true) s.options }
    | '+' :: letters => set rest { s with options := letters.foldl (setLetter false) s.options }
    | _ => { s with args := first :: rest }.exit 0

def shift : Tool := fun args s =>
  let n := (countOr 1 args).getD 1
  if s.args.length < n then (s.report 2 "shift: can't shift that many").stop .left
  else { s with args := s.args.drop n }.exit 0

/-! ## Input -/

/-- A line as it is read: a backslash takes the meaning of the next character, unless it is raw. -/
def unbackslashed (raw : Bool) : List Char → List Char
  | '\\' :: c :: rest =>
    if raw then '\\' :: unbackslashed raw (c :: rest) else c :: unbackslashed raw rest
  | c :: rest => c :: unbackslashed raw rest
  | [] => []

/-- Text without the separators at its end. -/
def trimEnd (separators : List Char) (cs : List Char) : List Char :=
  (cs.reverse.dropWhile fun c => isBlank c && separators.contains c).reverse

/-- One name after the other gets a field, the last one all that is left. -/
def readInto (separators : List Char) : List String → List Char → Shell → Shell
  | [], _, s => s
  | [name], cs, s =>
    let cs := cs.dropWhile fun c => isBlank c && separators.contains c
    s.setVariable name (String.ofList (trimEnd separators cs))
  | name :: more, cs, s =>
    let cs := cs.dropWhile fun c => isBlank c && separators.contains c
    let field := cs.takeWhile fun c => !separators.contains c
    readInto separators more (skipSeparator separators (cs.drop field.length))
      (s.setVariable name (String.ofList field))

/-- The status says whether there was a line with an end. -/
def read : Tool := fun args s =>
  let bytes := s.input.toList
  let line := bytes.takeWhile (· != 10)
  let ended := line.length < bytes.length
  let s := { s with input := ⟨(bytes.drop (line.length + 1)).toArray⟩ }
  let cs := unbackslashed (args.contains "-r") (valueOf ⟨line.toArray⟩).toList
  (readInto s.separators (args.filter fun a => !isFlag a) cs s).exit (if ended then 0 else 1)

/-! ## Signals and places -/

/-- What is to be run when signals arrive; a lone hyphen takes that back. -/
def trap : Tool
  | [], s => s.exit 0
  | "--" :: args, s => trap args s
  | action :: names, s =>
    let names := names.map signalName
    let kept := s.traps.filter fun t => !names.contains t.1
    let added := if action = "-" then [] else names.map (·, action)
    { s with traps := added ++ kept }.exit 0

def changeFolder : Tool := fun args s =>
  let path := args.head?.getD "/"
  match s.disk.find path with
  | .ok (place, .folder) => { s with disk := { s.disk with home := place } }.exit 0
  | _ => s.report 2 ("cd: can't cd to " ++ path)

def builtin? (name : String) : Option Tool :=
  match name with
  | ":" => some (quiet 0)
  | "exit" => some (leaveWith "exit" .left)
  | "return" => some (leaveWith "return" .returned)
  | "break" => some (leaveLoops .broken)
  | "continue" => some (leaveLoops .continued)
  | "export" => some (eachSetting exportVariable)
  | "readonly" => some (eachSetting fun _ s => s)
  | "local" => some makeLocal
  | "unset" => some unset
  | "set" => some set
  | "shift" => some shift
  | "read" => some read
  | "trap" => some trap
  | "cd" => some changeFolder
  | "wait" => some wait
  | "umask" | "ulimit" | "hash" | "alias" => some (quiet 0)
  | _ => none

def isSpecial (name : String) : Bool :=
  [":", "exit", "return", "break", "continue", "export", "readonly", "unset", "set", "shift",
    "trap", "eval", "exec", "."].contains name

end SessionReplay.Shell
