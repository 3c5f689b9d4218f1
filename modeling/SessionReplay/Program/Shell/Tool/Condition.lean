import SessionReplay.Program.Shell.Tool.Basic

/-!
# Conditions

Part of what stands in for the programs of a host; no result rests on it.

* `holds?`: whether a condition that is written as a list of arguments holds, none if it is not
  well formed.
-/

namespace SessionReplay.Shell

def compareNumbers? (op : Int → Int → Bool) (a b : String) : Option Bool :=
  match a.trimAscii.toString.toInt?, b.trimAscii.toString.toInt? with
  | some a, some b => some (op a b)
  | _, _ => none

def devices : List String :=
  ["/dev/null", "/dev/zero", "/dev/stdin", "/dev/stdout", "/dev/stderr", "/dev/tty"]

def holdsOfPath (s : Shell) (op path : String) : Option Bool :=
  match op with
  | "-n" => some (!path.isEmpty)
  | "-z" => some path.isEmpty
  | "-e" | "-r" | "-w" => some (s.disk.has path || devices.contains path)
  | "-c" => some (devices.contains path)
  | "-f" => some (s.disk.isFile path)
  | "-d" | "-x" => some (s.disk.isFolder path)
  | "-s" =>
    match s.disk.read path with
    | .ok bytes => some (!bytes.isEmpty)
    | .error _ => some (s.disk.isFolder path)
  | "-L" | "-h" | "-p" | "-S" | "-b" | "-t" => some false
  | _ => none

def compare? (op a b : String) : Option Bool :=
  match op with
  | "=" | "==" => some (a == b)
  | "!=" => some (a != b)
  | "<" => some (a < b)
  | ">" => some (b < a)
  | "-eq" => compareNumbers? (· == ·) a b
  | "-ne" => compareNumbers? (· != ·) a b
  | "-lt" => compareNumbers? (· < ·) a b
  | "-le" => compareNumbers? (· ≤ ·) a b
  | "-gt" => compareNumbers? (· > ·) a b
  | "-ge" => compareNumbers? (· ≥ ·) a b
  | _ => none

/-- A condition without operators that join conditions. -/
def holdsSimple? (s : Shell) : List String → Option Bool
  | [] => some false
  | [a] => some (!a.isEmpty)
  | "!" :: rest => (holdsSimple? s rest).map (!·)
  | [op, a] => holdsOfPath s op a
  | [a, op, b] => compare? op a b
  | _ => none

/-- The lists between the places of a word, which is looked for behind an operand only. -/
def splitAtWord (word : String) : List String → List (List String)
  | [] => [[]]
  | a :: rest =>
    match splitAtWord word rest with
    | [] => [[a]]
    | piece :: more => if a = word then [] :: piece :: more else (a :: piece) :: more

def joinAll? (unit : Bool) (op : Bool → Bool → Bool) (results : List (Option Bool)) : Option Bool :=
  results.foldl (fun done r => do some (op (← done) (← r))) (some unit)

def holds? (s : Shell) (args : List String) : Option Bool :=
  match holdsSimple? s args with
  | some result => some result
  | none =>
    joinAll? false (· || ·) ((splitAtWord "-o" args).map fun part =>
      joinAll? true (· && ·) ((splitAtWord "-a" part).map (holdsSimple? s)))

def test : Tool := fun args s =>
  match holds? s args with
  | some true => s.exit 0
  | some false => s.exit 1
  | none => s.report 2 "test: unexpected operator"

/-- A condition between brackets. -/
def bracket : Tool := fun args s =>
  if args.getLast? = some "]" then test args.dropLast s else s.report 2 "[: missing ]"

end SessionReplay.Shell
