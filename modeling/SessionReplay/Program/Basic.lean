import SessionReplay.Command
import SessionReplay.Program.Duration
import SessionReplay.Storage.Disk
import SessionReplay.Trouble

/-!
# Running programs

A program is started with arguments and variables, may change the disk, and ends with an exit code
unless it is killed. One that takes too long is killed with all that it started.

* `Launch`, `Finish`, `Programs`: what is started, what becomes of it, and which programs there are.
* `Invocation`: a command with further arguments and variables.
* `Invocation.run`: its exit code and output, or the trouble.
-/

namespace SessionReplay

structure Launch where
  program : String
  args : List String
  /-- Variables in the order in which they were set; the last value of a name counts. -/
  environment : List (String × String)
  deriving DecidableEq, Repr

inductive Finish where
  /-- The program could not be started, for the reason given. -/
  | notStarted (reason : String)
  | timedOut
  /-- The exit code, none if the program was killed, and what it wrote. -/
  | ended (exitCode : Option Int32) (output : ByteArray)

/-- What programs do on a disk within a limit of time. -/
abbrev Programs := Launch → Option Duration → Disk → Finish × Disk

structure Invocation where
  program : String
  args : List String
  environment : List (String × String) := []
  /-- Whether what the program writes is wanted. -/
  capture : Bool := false
  deriving DecidableEq, Repr

structure ProgramOutput where
  /-- None if the program was killed. -/
  exitCode : Option Int32
  output : String
  deriving DecidableEq, Repr

namespace ProgramOutput

def isSuccess (o : ProgramOutput) : Bool := o.exitCode == some 0

/-- An exit code in a message. -/
def exitText (o : ProgramOutput) : String :=
  match o.exitCode with
  | some code => s!"Some({code.toInt})"
  | none => "None"

end ProgramOutput

namespace Invocation

def ofCommand (c : Command) : Invocation := { program := c.program, args := c.args }

def addArg (i : Invocation) (arg : String) : Invocation := { i with args := i.args ++ [arg] }

def addArgs (i : Invocation) (args : List String) : Invocation := { i with args := i.args ++ args }

def setVariable (i : Invocation) (name value : String) : Invocation :=
  { i with environment := i.environment ++ [(name, value)] }

def line (i : Invocation) : String := String.intercalate " " (i.program :: i.args)

def launch (i : Invocation) : Launch := ⟨i.program, i.args, i.environment⟩

def notStartedTrouble (i : Invocation) (reason : String) : Trouble :=
  ⟨"Failed to spawn '" ++ i.line ++ "'", [reason]⟩

def timeoutTrouble (i : Invocation) (limit : Duration) : Trouble :=
  ⟨"'" ++ i.line ++ "' timed out after " ++ limit.text, []⟩

/-- What was written, if it is wanted and if it is text. -/
def captured (i : Invocation) (output : ByteArray) : String :=
  if i.capture then (String.fromUTF8? output).getD "" else ""

/-- No argument of a program may hold the character zero. -/
def holdsZero (i : Invocation) : Bool :=
  (i.program :: i.args ++ i.environment.flatMap fun v => [v.1, v.2]).any
    fun s => s.toList.contains '\x00'

def run (programs : Programs) (limit : Option Duration) (i : Invocation) (d : Disk) :
    Except Trouble ProgramOutput × Disk :=
  if i.holdsZero then (.error (i.notStartedTrouble "nul byte found in provided data"), d)
  else
    match programs i.launch limit d with
    | (.notStarted reason, d) => (.error (i.notStartedTrouble reason), d)
    | (.timedOut, d) => (.error (i.timeoutTrouble (limit.getD ⟨0⟩)), d)
    | (.ended code output, d) => (.ok ⟨code, i.captured output⟩, d)

end Invocation
end SessionReplay
