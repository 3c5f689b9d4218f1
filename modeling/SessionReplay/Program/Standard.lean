import SessionReplay.Program.Basic
import SessionReplay.Program.Shell.Run

/-!
# The programs of a host

A host has a shell and the tools that scripts are made of. These only stand in for the programs of a
real host when the pipeline is run. What is proved of the pipeline is proved for all `Programs`, so
that no result rests on them.

* `locate`: the program that a name stands for, or why there is none.
* `standardPrograms`: what these programs do within a limit of time.
-/

namespace SessionReplay

namespace Shell

def denied : String := "Permission denied (os error 13)"

/-- What a program does, or why a name stands for none. Neither files on the disk nor folders can be
run. -/
def locate (name : String) (args : List String) (d : Disk) : Except String (Shell → Shell) :=
  if isShell name then .ok (runShell runLimit args)
  else if isProgram name then .ok (fun s => settle runLimit (runProgram runLimit name args s))
  else if name = "." || name = ".." then .error denied
  else if name.toList.contains '/' then
    match d.find name with
    | .ok _ => .error denied
    | .error fault => .error fault.message
  else .error Storage.Fault.notFound.message

/-- A shell at the start of a program. -/
def atStart (name : String) (environment : List (String × String)) (deadline : Option Nat)
    (d : Disk) : Shell :=
  { disk := d
    environment := environment.foldl (fun vs v => v :: vs.filter (·.1 != v.1)) []
    exported := environment.map (·.1)
    name := name
    deadline := deadline }

/-- What is written counts whether or not the program was killed. -/
def finish (s : Shell) : Finish :=
  match s.stopped with
  | some .tooLate | some .endless => .timedOut
  | some (.killed _) => .ended none (s.outputOf 1)
  | _ => .ended (some (Int32.ofNat s.status)) (s.outputOf 1)

/-- Whether a program came to its end within a limit. -/
def inTime (limit : Option Nat) (s : Shell) : Bool :=
  s.stopped != some .tooLate && s.stopped != some .endless && limit.all (s.time ≤ ·)

end Shell

open Shell

/-- A program that ends in time is not stopped, whatever it leaves behind in the background. -/
def standardPrograms : Programs := fun launch limit d =>
  match locate launch.program launch.args d with
  | .error reason => (.notStarted reason, d)
  | .ok program =>
    let millis := limit.map Duration.millis
    let result (deadline : Option Nat) : Shell :=
      program (atStart launch.program launch.environment deadline d)
    let disk (s : Shell) : Disk := { s.disk with home := d.home }
    let free := result none
    if inTime millis free then (finish free, disk free) else (.timedOut, disk (result millis))

end SessionReplay
