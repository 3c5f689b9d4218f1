import SessionReplay.Program.Shell.Printf
import SessionReplay.Program.Shell.Tool.Basic

/-!
# Time, signals and jobs

Part of what stands in for the programs of a host; no result rests on it.
-/

namespace SessionReplay.Shell

/-! ## Time -/

/-- Milliseconds in a time such as `5`, `0.25` and `2m`. -/
def millisOf? (text : String) : Option Nat :=
  let cs := text.toList
  let whole := cs.takeWhile Char.isDigit
  let (fraction, unit) := match cs.drop whole.length with
    | '.' :: rest => (rest.takeWhile Char.isDigit, rest.dropWhile Char.isDigit)
    | rest => ([], rest)
  let millis := 1000 * decimalValue whole + decimalValue ((fraction ++ ['0', '0', '0']).take 3)
  if whole.isEmpty && fraction.isEmpty then none
  else
    match unit with
    | [] | ['s'] => some millis
    | ['m'] => some (60 * millis)
    | ['h'] => some (3600 * millis)
    | ['d'] => some (86400 * millis)
    | _ => none

def sleep : Tool := fun args s =>
  if args.isEmpty then s.complain 1 "sleep: missing operand"
  else
    match args.find? fun a => (millisOf? a).isNone with
    | some bad => s.complain 1 ("sleep: invalid time interval " ++ quotedPath bad)
    | none => (s.pass ((args.filterMap millisOf?).foldl (· + ·) 0)).exit 0

/-! ## Signals -/

/-- Signals by their numbers; zero stands for the end of the shell. -/
def signalNumbers : List (String × Nat) :=
  [("EXIT", 0), ("HUP", 1), ("INT", 2), ("QUIT", 3), ("ABRT", 6), ("KILL", 9), ("USR1", 10),
   ("SEGV", 11), ("USR2", 12), ("PIPE", 13), ("ALRM", 14), ("TERM", 15), ("CHLD", 17),
   ("CONT", 18), ("URG", 23), ("WINCH", 28)]

def signalNumber (name : String) : Nat :=
  ((signalNumbers.find? (·.1 == name)).map (·.2)).getD 1

/-- A signal that is given by its number or name. -/
def signalName (s : String) : String :=
  let cs := s.toList
  let name := String.ofList (if "SIG".toList.isPrefixOf cs then cs.drop 3 else cs)
  match s.toNat? with
  | some n => ((signalNumbers.find? (·.2 == n)).map (·.1)).getD s
  | none => name

/-- Signals that do not end a program. -/
def isHarmless (name : String) : Bool := ["EXIT", "CHLD", "CONT", "URG", "WINCH"].contains name

/-- Ends a job now: what it would have written later is not written. -/
def endJob (number signal : Nat) (s : Shell) : Shell :=
  { s with
    written := s.written.filter fun c => !(c.writer == number && s.time < c.time)
    jobs := s.jobs.map fun j =>
      if j.number = number && s.time < j.endTime then ⟨number, s.time, 128 + signal⟩ else j }

/-- Whether a number names the shell or the group it is in. -/
def isOwn (s : Shell) (target : String) : Bool :=
  target == toString s.number || target == "0" || target == "-" ++ toString s.number

def signalOne (name : String) (s : Shell) (target : String) : Shell :=
  if isOwn s target then
    if name = "EXIT" then s else { s with signals := s.signals ++ [name] }
  else
    match s.jobs.find? fun j => toString j.number == target with
    | some job => if isHarmless name then s else endJob job.number (signalNumber name) s
    | none => s.report 1 "kill: No such process"

def kill : Tool := fun args s =>
  let (name, targets) := match args with
    | "-s" :: name :: rest => (signalName name, rest)
    | first :: rest =>
      if isFlag first && first != "--" then (signalName (withoutFirst 1 first), rest)
      else ("TERM", args)
    | [] => ("TERM", [])
  (targets.filter (· != "--")).foldl (signalOne name) (s.exit 0)

/-! ## Jobs -/

/-- Waits for a job, or for all of them. -/
def wait : Tool := fun args s =>
  match args.head? with
  | none =>
    (s.jobs.foldl (fun (s : Shell) job => s.waitUntil job.endTime) { s with jobs := [] }).exit 0
  | some number =>
    match s.jobs.find? fun j => toString j.number == number with
    | some job =>
      ({ s with jobs := s.jobs.filter (·.number != job.number) }.waitUntil job.endTime).exit
        job.status
    | none => s.exit 127

end SessionReplay.Shell
