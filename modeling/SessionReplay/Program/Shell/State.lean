import SessionReplay.Program.Shell.Syntax
import SessionReplay.Storage.Disk

/-!
# The state of a shell

Part of what stands in for the programs of a host; no result rests on it.

* `Shell`: variables, arguments, the disk, and what was written at what time.
* `Shell.write`, `Shell.complain`: output of a command.
* `Shell.pass`: time goes by, perhaps beyond the deadline.
* `Shell.stop`: a shell that does nothing more, or leaves a loop or function.
-/

namespace SessionReplay

namespace Shell

/-- Why a shell does not go on with the next command. -/
inductive Stop where
  | left
  | killed (signal : Nat)
  | tooLate
  /-- It would write for ever. -/
  | endless
  /-- So many loops are left. -/
  | broken (loops : Nat)
  /-- All of so many loops but the outermost are left, and that one is continued. -/
  | continued (loops : Nat)
  /-- The function is left. -/
  | returned
  deriving DecidableEq, Repr

/-- Where output goes. -/
inductive Route where
  | stream (n : Nat)
  | file (path : String)
  | nowhere
  deriving DecidableEq, Repr

/-- Bytes that were written to a stream at a time, by a job or by the shell itself. -/
structure Chunk where
  time : Nat
  stream : Nat
  writer : Nat
  bytes : ByteArray

/-- A command in the background. -/
structure Job where
  number : Nat
  endTime : Nat
  status : Nat
  deriving DecidableEq, Repr

/-- What a shell was asked to take care of. -/
structure Options where
  stopsOnFailure : Bool := false
  stopsOnUnset : Bool := false
  deriving DecidableEq, Repr

end Shell

open Shell

structure Shell where
  disk : Disk
  environment : List (String × String)
  /-- The variables that are passed on to other programs. -/
  exported : List String
  functions : List (String × Script) := []
  /-- What is run when a signal arrives or the shell is left. -/
  traps : List (String × String) := []
  options : Options := {}
  /-- Whether a failure of the command is asked for and thus does no harm. -/
  isTested : Bool := false
  /-- The name that the shell was given, and its arguments. -/
  name : String := "sh"
  args : List String := []
  /-- Variables to be restored when the function is left. -/
  locals : List (String × Option String) := []
  /-- The number of loops around the command. -/
  loops : Nat := 0
  /-- The number by which the shell is known to its scripts. -/
  number : Nat := 4242
  /-- The last number that was given to a shell or job. -/
  lastNumber : Nat := 4242
  /-- The exit code of the last command. -/
  status : Nat := 0
  /-- Milliseconds since the start. -/
  time : Nat := 0
  /-- Where the streams go. -/
  routes : List (Nat × Route) := [(1, .stream 1), (2, .stream 2)]
  /-- What was written, the last first. -/
  written : List Chunk := []
  /-- The number of streams that were opened. -/
  streams : Nat := 2
  jobs : List Job := []
  /-- The number of the last job, none if there was none. -/
  lastJob : Option Nat := none
  /-- The job that is running, zero if it is none. -/
  job : Nat := 0
  /-- What can be read. -/
  input : ByteArray := ByteArray.empty
  /-- Signals that have arrived. -/
  signals : List String := []
  stopped : Option Stop := none
  /-- When the shell is stopped from outside. -/
  deadline : Option Nat := none

namespace Shell

def exit (status : Nat) (s : Shell) : Shell := { s with status := status % 256 }

def stop (reason : Stop) (s : Shell) : Shell := { s with stopped := s.stopped <|> some reason }

/-! ## Output -/

def routeOf (s : Shell) (stream : Nat) : Route :=
  ((s.routes.find? (·.1 == stream)).map (·.2)).getD .nowhere

def setRoute (stream : Nat) (route : Route) (s : Shell) : Shell :=
  { s with routes := (stream, route) :: s.routes.filter (·.1 != stream) }

def writeTo (stream : Nat) (bytes : ByteArray) (s : Shell) : Shell :=
  if bytes.isEmpty then s
  else
    match s.routeOf stream with
    | .stream n => { s with written := ⟨s.time, n, s.job, bytes⟩ :: s.written }
    | .nowhere => s
    | .file path =>
      match s.disk.append path bytes with
      | .ok d => { s with disk := d }
      | .error _ => s

/-- A command that ends well with this output. -/
def write (bytes : ByteArray) (s : Shell) : Shell := (s.writeTo 1 bytes).exit 0

def writeText (text : String) (s : Shell) : Shell := s.write text.toUTF8

/-- A command that fails and says why. -/
def complain (status : Nat) (text : String) (s : Shell) : Shell :=
  (s.writeTo 2 (text ++ "\n").toUTF8).exit status

/-- What the shell itself has to say about a command that fails. -/
def report (status : Nat) (text : String) (s : Shell) : Shell :=
  s.complain status (s.name ++ ": 1: " ++ text)

def joinBytes (parts : List ByteArray) : ByteArray := parts.foldl (· ++ ·) ByteArray.empty

/-- What was written to a stream, in the order of time. -/
def outputOf (stream : Nat) (s : Shell) : ByteArray :=
  let own := (s.written.filter (·.stream == stream)).reverse
  joinBytes ((own.mergeSort fun a b => a.time ≤ b.time).map (·.bytes))

/-- A shell that writes to a new stream. -/
def openStream (s : Shell) : Nat × Shell :=
  let n := s.streams + 1
  (n, { s with streams := n }.setRoute 1 (.stream n))

/-- The output of a stream that nothing is written to any more. -/
def closeStream (n : Nat) (s : Shell) : ByteArray × Shell :=
  (s.outputOf n, { s with written := s.written.filter (·.stream != n) })

/-! ## Time -/

/-- It is at least this late. -/
def waitUntil (time : Nat) (s : Shell) : Shell :=
  let s := { s with time := max s.time time }
  match s.deadline with
  | some deadline => if deadline < s.time then s.stop .tooLate else s
  | none => s

/-- Time goes by. -/
def pass (millis : Nat) (s : Shell) : Shell := s.waitUntil (s.time + millis)

/-! ## Parameters -/

def value? (name : String) (s : Shell) : Option String :=
  (s.environment.find? (·.1 == name)).map (·.2)

def setVariable (name value : String) (s : Shell) : Shell :=
  { s with environment := (name, value) :: s.environment.filter (·.1 != name) }

def unsetVariable (name : String) (s : Shell) : Shell :=
  { s with
    environment := s.environment.filter (·.1 != name)
    exported := s.exported.filter (· != name) }

def exportVariable (name : String) (s : Shell) : Shell :=
  { s with exported := name :: s.exported.filter (· != name) }

/-- The variables that other programs see. -/
def passedOn (s : Shell) : List (String × String) :=
  s.environment.filter fun v => s.exported.contains v.1

/-- The characters at which values are split. -/
def separators (s : Shell) : List Char :=
  match s.value? "IFS" with
  | some text => text.toList
  | none => [' ', '\t', '\n']

/-- The value of a parameter that is no list. -/
def parameter? (name : String) (s : Shell) : Option String :=
  match name with
  | "#" => some (toString s.args.length)
  | "?" => some (toString s.status)
  | "$" => some (toString s.number)
  | "!" => s.lastJob.map toString
  | "-" => some ""
  | "0" => some s.name
  | _ =>
    match name.toNat? with
    | some n => s.args[n - 1]?
    | none => s.value? name

/-- The arguments in one text. -/
def joinedArgs (s : Shell) : String :=
  String.intercalate (String.ofList (s.separators.take 1)) s.args

end Shell
end SessionReplay
