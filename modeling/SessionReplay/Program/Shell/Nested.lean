import SessionReplay.Program.Shell.State

/-!
# Shells inside shells

Part of what stands in for the programs of a host; no result rests on it.

A part of a script may run in a shell of its own, and programs are shells that know only what is
passed on to them. What such a shell changes in itself is lost, what it does to the disk and what
it writes is not.

* `inside`, `afterNested`: a part of a script in a shell of its own.
* `childOf`, `afterChild`: a program.
* `afterBody`: what a loop does about the end of its body.
-/

namespace SessionReplay.Shell

/-- What is not caught by the end of a shell. -/
def outlasting (stopped : Option Stop) : Option Stop :=
  match stopped with
  | some (.killed n) => some (.killed n)
  | some .tooLate => some .tooLate
  | some .endless => some .endless
  | _ => none

def trap? (name : String) (s : Shell) : Option String :=
  (s.traps.find? (·.1 == name)).map (·.2)

def withoutTrap (name : String) (s : Shell) : Shell :=
  { s with traps := s.traps.filter (·.1 != name) }

/-- The shell in which a part of a script is run. -/
def inside (s : Shell) : Shell := { s.withoutTrap "EXIT" with jobs := [] }

/-- What a shell did becomes visible in another one. -/
def takeEffects (outer inner : Shell) : Shell :=
  { outer with
    disk := { inner.disk with home := outer.disk.home }
    time := inner.time, written := inner.written, streams := inner.streams
    lastNumber := inner.lastNumber, signals := inner.signals }

def afterNested (outer inner : Shell) : Shell :=
  { takeEffects outer inner with
    status := inner.status, input := inner.input, stopped := outlasting inner.stopped }

/-- The shell that a program is. -/
def childOf (s : Shell) : Shell :=
  { disk := s.disk
    environment := s.passedOn
    exported := s.passedOn.map (·.1)
    number := s.lastNumber + 1
    lastNumber := s.lastNumber + 1
    time := s.time
    routes := s.routes
    written := s.written
    streams := s.streams
    job := s.job
    input := s.input
    deadline := s.deadline }

/-- A program that was killed has an exit code for those who started it. -/
def afterChild (outer inner : Shell) : Shell :=
  let after := afterNested outer { inner with signals := outer.signals }
  match inner.stopped with
  | some (.killed n) => { after with stopped := none }.exit (128 + n)
  | _ => after

/-- Puts variables back to what they were before. -/
def restore (names : List String) (before s : Shell) : Shell :=
  names.foldl (fun s name =>
    let s := match before.value? name with
      | some value => s.setVariable name value
      | none => s.unsetVariable name
    if before.exported.contains name then s else
      { s with exported := s.exported.filter (· != name) }) s

/-- Milliseconds that go by before a command in the background does anything. -/
def startTime : Nat := 1

/-- A part of a script that is a loop. -/
def inLoop (run : Shell → Shell) (s : Shell) : Shell :=
  { run { s with loops := s.loops + 1 } with loops := s.loops }

/-- Whether a loop goes on after its body. -/
def afterBody (s : Shell) : Bool × Shell :=
  match s.stopped with
  | none => (true, s)
  | some (.continued n) =>
    if n ≤ 1 then (true, { s with stopped := none })
    else (false, { s with stopped := some (.continued (n - 1)) })
  | some (.broken n) =>
    (false, { s with stopped := if n ≤ 1 then none else some (.broken (n - 1)) })
  | some _ => (false, s)

/-- Runs a body for one value after the other. -/
def runEach (name : String) (body : Shell → Shell) : List String → Shell → Shell
  | [], s => s
  | value :: rest, s =>
    match afterBody (body (s.setVariable name value)) with
    | (true, s) => runEach name body rest s
    | (false, s) => s

/-- A command whose failure is asked for. -/
def tested (run : Shell → Shell) (s : Shell) : Shell :=
  { run { s with isTested := true } with isTested := s.isTested }

/-- A shell may have to stop when a command fails. -/
def afterFailure (s : Shell) : Shell :=
  if s.status != 0 && s.options.stopsOnFailure && !s.isTested then s.stop .left else s

end SessionReplay.Shell
