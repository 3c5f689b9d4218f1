import SessionReplay.CommandLine.Operation

/-!
# Help with the command line

* `usageLines`: the orders that are understood.
* `UsageFault.message`, `UsageFault.isRequest`: why there is no order, and whether help was asked
  for.
-/

namespace SessionReplay.CommandLine

def flagUsage (f : FlagForm) : String :=
  let name := "--" ++ f.name
  let withValue := if f.takes.isSome then name ++ " <value>" else name
  if f.isRequired then withValue else "[" ++ withValue ++ "]"

def operandUsage (o : Operand) : String := "<" ++ o.name ++ ">"

mutual

/-- The lines of a verb whose own words begin like this. -/
def Verb.usage (words : String) : Verb → List String
  | .mk flags operands verbs =>
    let line := String.intercalate " "
      (words :: operands.map operandUsage ++ flags.map flagUsage)
    match verbs with
    | [] => [line]
    | first :: rest => usageOfVerbs line (first :: rest)

def usageOfVerbs (words : String) : List (String × Verb) → List String
  | [] => []
  | (name, v) :: rest => v.usage (words ++ " " ++ name) ++ usageOfVerbs words rest

end

def usageLines (program : String) : List String := verbs.usage program

namespace UsageFault

def isRequest : UsageFault → Bool
  | helpWanted => true
  | _ => false

def message : UsageFault → String
  | helpWanted => "usage"
  | nothingGiven | missingVerb => "a command is missing"
  | missingArgument => "a required argument is missing"
  | unknownArgument => "there is an unexpected argument"
  | unknownVerb => "there is no such command"
  | badValue => "a value is missing or empty"
  | conflict => "an argument is given twice"
  | unneededValue => "a value is given to an argument that takes none"

end UsageFault
end SessionReplay.CommandLine
