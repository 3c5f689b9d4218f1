import SessionReplay.CommandLine.Verb

/-!
# Reading a command line

* `Reading`: what was read for one verb. An option or operand is settled when the next one begins.
* `Selection`: the verbs that were chosen, and the values by the names of options and operands.
* `Verb.read`: the selection of a list of arguments.
-/

namespace SessionReplay.CommandLine

/-- An option or operand whose value may still be missing. -/
structure Pending where
  name : String
  kind : ValueKind
  value : Option String
  deriving DecidableEq, Repr

structure Reading where
  given : List (String × String) := []
  pending : Option Pending := none
  operandsGiven : Nat := 0
  /-- Whether the divider was met. -/
  isDivided : Bool := false
  deriving DecidableEq, Repr

structure Selection where
  verbs : List String
  values : List (String × String)
  deriving DecidableEq, Repr

namespace Selection

def value? (s : Selection) (name : String) : Option String :=
  (s.values.find? (·.1 == name)).map (·.2)

def has (s : Selection) (name : String) : Bool := (s.value? name).isSome

end Selection

namespace Reading

/-- Whether the next word is the value of an option. -/
def isAwaiting (r : Reading) : Bool := r.pending.any fun p => p.value.isNone

def holds (r : Reading) (name : String) : Bool := r.given.any (·.1 == name)

/-- Takes a value; nothing is given twice. -/
def give (r : Reading) (name : String) (kind : ValueKind) (value : String) :
    Except UsageFault Reading :=
  if r.holds name then .error .conflict
  else if kind.admits value then .ok { r with given := r.given ++ [(name, value)] }
  else .error .badValue

/-- Settles what is pending. -/
def settle (r : Reading) : Except UsageFault Reading :=
  match r.pending with
  | none => .ok r
  | some ⟨_, _, none⟩ => .error .badValue
  | some ⟨name, kind, some value⟩ => { r with pending := none }.give name kind value

/-- The value of a switch that is given. -/
def switchedOn : String := "true"

/-- Reads an option. -/
def flag (r : Reading) (f : FlagForm) (value : Option String) : Except UsageFault Reading :=
  match f.takes, value with
  | some kind, some value => do (← r.settle).give f.name kind value
  | some kind, none => do
    let r ← r.settle
    .ok { r with pending := some ⟨f.name, kind, none⟩ }
  | none, some _ => .error .unneededValue
  | none, none => do (← r.settle).give f.name .text switchedOn

/-- Reads the value of the option that awaits one. -/
def valueOfPending (r : Reading) (value : String) : Reading :=
  { r with pending := r.pending.map fun p => { p with value := some value } }

end Reading

namespace Verb

/-- What is wrong with a word that is no operand. -/
def strayFault (v : Verb) (r : Reading) (word : String) : UsageFault :=
  if !v.isGroup then .unknownArgument
  else if r.isDivided && ((v.verb? word).isSome || word == help) then .unknownArgument
  else .unknownVerb

def readOperand (v : Verb) (r : Reading) (word : String) : Except UsageFault Reading :=
  match v.operands[r.operandsGiven]? with
  | some operand => do
    let r ← r.settle
    .ok { r with
      pending := some ⟨operand.name, operand.kind, some word⟩
      operandsGiven := r.operandsGiven + 1 }
  | none => .error (v.strayFault r word)

/-- Help is given once what is pending is settled. -/
def askForHelp (r : Reading) : Except UsageFault Reading := do
  let _ ← r.settle
  .error .helpWanted

/-- Reads a word that names no verb. -/
def readWord (v : Verb) (r : Reading) (word : String) : Except UsageFault Reading :=
  if r.isDivided then v.readOperand r word
  else
    match Word.ofText word with
    | .divider => .ok { r with isDivided := true }
    | .long name value =>
      match v.flag? name with
      | some f => r.flag f value
      | none =>
        if name = help then
          if value.isSome then .error .unneededValue else askForHelp r
        else .error .unknownArgument
    | .short letters => if letters.head? = some 'h' then askForHelp r else .error .unknownArgument
    | .plain text => if r.isAwaiting then .ok (r.valueOfPending text) else v.readOperand r text

/-- What becomes of a request for help with verbs. -/
def helpWith (v : Verb) : List String → UsageFault
  | [] => .helpWanted
  | word :: rest =>
    match v.verb? word with
    | some child => child.helpWith rest
    | none => if v.isGroup && word == help && rest.isEmpty then .helpWanted else .unknownVerb

/-- The selection of a verb, once there are no more arguments for it. -/
def finish (v : Verb) (r : Reading) : Except UsageFault Selection := do
  let r ← r.settle
  if v.isGroup then
    if r.given.isEmpty then .error .nothingGiven else .error .missingVerb
  else if v.required.all r.holds then .ok ⟨[], r.given⟩
  else .error .missingArgument

/-- Reads the arguments of a verb. What is wrong behind a verb is noticed before what is pending
in front of it. -/
def read (v : Verb) (r : Reading) : List String → Except UsageFault Selection
  | [] => v.finish r
  | word :: rest =>
    if r.isDivided || r.isAwaiting then do
      let r ← v.readWord r word
      v.read r rest
    else
      match v.verb? word with
      | some child => do
        let inner ← child.read {} rest
        let r ← r.settle
        .ok ⟨word :: inner.verbs, r.given ++ inner.values⟩
      | none =>
        if v.isGroup && word == help then .error (v.helpWith rest)
        else do
          let r ← v.readWord r word
          v.read r rest

end Verb
end SessionReplay.CommandLine
