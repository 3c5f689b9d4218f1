import SessionReplay.Program.Shell.Arithmetic
import SessionReplay.Program.Shell.Tool.Condition
import SessionReplay.Program.Shell.Tool.File
import SessionReplay.Program.Shell.Tool.Process
import SessionReplay.Program.Shell.Tool.Search
import SessionReplay.Program.Shell.Tool.Text

/-!
# Tools by name

Part of what stands in for the programs of a host; no result rests on it.

* `tool?`: the program of a name.
* `program?`, `isProgram`: programs by their names or paths; the shell is one of them.
-/

namespace SessionReplay.Shell

/-- The variables that are named, or all that are passed on. -/
def printVariables : Tool := fun args s =>
  let given := s.passedOn
  match args with
  | [] => s.writeText (String.join (given.map fun v => v.1 ++ "=" ++ v.2 ++ "\n"))
  | names =>
    let found := names.filterMap fun name => given.find? (·.1 == name)
    (s.writeText (String.join (found.map fun v => v.2 ++ "\n"))).exit
      (if found.length < names.length then 1 else 0)

/-- Writes the value of a sum that is given as arguments; the exit code says whether it is zero. -/
def expr : Tool := fun args s =>
  let args := args.map fun a => if a = "=" then "==" else a
  match Arithmetic.value? (fun _ => 0) (String.intercalate " " args) with
  | some (n, _) => (s.writeText s!"{n}\n").exit (if n = 0 then 1 else 0)
  | none => s.complain 2 "expr: syntax error"

def tool? (name : String) : Option Tool :=
  match name with
  | "true" => some (quiet 0)
  | "false" => some (quiet 1)
  | "echo" => some echo
  | "printf" => some printTool
  | "seq" => some seq
  | "yes" => some yes
  | "cat" => some cat
  | "head" => some head
  | "tail" => some tail
  | "wc" => some wc
  | "tr" => some tr
  | "sort" => some sortLines
  | "uniq" => some uniq
  | "cut" => some cut
  | "tee" => some tee
  | "grep" => some grep
  | "dirname" => some dirname
  | "basename" => some basename
  | "pwd" => some pwd
  | "touch" => some touch
  | "mkdir" => some mkdir
  | "rm" => some rm
  | "rmdir" => some rmdir
  | "cp" => some cp
  | "mv" => some mv
  | "ls" => some ls
  | "chmod" | "sync" => some (quiet 0)
  | "expr" => some expr
  | "test" => some test
  | "[" => some bracket
  | "sleep" => some sleep
  | "kill" => some kill
  | "printenv" => some printVariables
  | _ => none

/-- Programs that run other programs. -/
def runners : List String := ["env", "nohup", "timeout", "xargs"]

/-- The name of a program without the folders in which programs are kept. -/
def withoutFolder (name : String) : String :=
  let cs := name.toList
  let folders := ["/usr/local/bin/", "/usr/bin/", "/bin/"].map String.toList
  match folders.find? fun folder => folder.isPrefixOf cs with
  | some folder => String.ofList (cs.drop folder.length)
  | none => name

def isShell (name : String) : Bool := ["sh", "dash", "bash"].contains (withoutFolder name)

/-- What a program does that is started by its name or path. -/
def program? (name : String) : Option Tool :=
  match withoutFolder name with
  | "echo" => some plainEcho
  | "printf" => some plainPrint
  | known => tool? known

def isProgram (name : String) : Bool :=
  isShell name || (program? name).isSome || runners.contains (withoutFolder name)

end SessionReplay.Shell
