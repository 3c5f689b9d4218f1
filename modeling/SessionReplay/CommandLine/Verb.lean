/-!
# The words of a command line

A command line names a verb, perhaps of another verb, with options and operands.

* `ValueKind`, `FlagForm`, `Operand`, `Verb`: what a command line may hold.
* `Word`: one argument by its looks.
* `UsageFault`: why a command line cannot be followed.
-/

namespace SessionReplay.CommandLine

/-- The value of an option or operand. A path is not empty. -/
inductive ValueKind where
  | text
  | path
  deriving DecidableEq, Repr

def ValueKind.admits (k : ValueKind) (value : String) : Bool := k == .text || !value.isEmpty

/-- An option, which takes a value unless it is a switch. -/
structure FlagForm where
  name : String
  takes : Option ValueKind
  isRequired : Bool := false
  deriving DecidableEq, Repr

/-- A value that is known by its position. It has to be given. -/
structure Operand where
  name : String
  kind : ValueKind
  deriving DecidableEq, Repr

/-- A verb with verbs of its own needs one of them. -/
inductive Verb where
  | mk (flags : List FlagForm) (operands : List Operand) (verbs : List (String × Verb))

namespace Verb

def flags : Verb → List FlagForm
  | mk flags _ _ => flags

def operands : Verb → List Operand
  | mk _ operands _ => operands

def verbs : Verb → List (String × Verb)
  | mk _ _ verbs => verbs

def leaf (flags : List FlagForm) (operands : List Operand) : Verb := mk flags operands []

def group (verbs : List (String × Verb)) : Verb := mk [] [] verbs

def isGroup (v : Verb) : Bool := !v.verbs.isEmpty

def verb? (v : Verb) (name : String) : Option Verb :=
  (v.verbs.find? (·.1 == name)).map (·.2)

def flag? (v : Verb) (name : String) : Option FlagForm := v.flags.find? (·.name == name)

/-- Each group of verbs has one that gives help. -/
def help : String := "help"

/-- What has to be given to a verb. -/
def required (v : Verb) : List String :=
  v.operands.map (·.name) ++ (v.flags.filter (·.isRequired)).map (·.name)

end Verb

inductive Word where
  /-- The mark behind which all words are operands. -/
  | divider
  | long (name : String) (value : Option String)
  | short (letters : List Char)
  | plain (text : String)
  deriving DecidableEq, Repr

/-- A name, and the text behind an equals sign if there is one. -/
def splitValue (cs : List Char) : Word :=
  let name := cs.takeWhile (· != '=')
  match cs.drop name.length with
  | [] => .long (String.ofList name) none
  | _ :: value => .long (String.ofList name) (some (String.ofList value))

def Word.ofText (text : String) : Word :=
  match text.toList with
  | ['-', '-'] => .divider
  | '-' :: '-' :: rest => splitValue rest
  | '-' :: c :: rest => .short (c :: rest)
  | _ => .plain text

inductive UsageFault where
  /-- Help was asked for. -/
  | helpWanted
  /-- Nothing was given where a verb is needed. -/
  | nothingGiven
  | missingVerb
  | missingArgument
  | unknownArgument
  | unknownVerb
  /-- A value is missing or may not be what it is. -/
  | badValue
  /-- Something was given twice. -/
  | conflict
  | unneededValue
  deriving DecidableEq, Repr

end SessionReplay.CommandLine
