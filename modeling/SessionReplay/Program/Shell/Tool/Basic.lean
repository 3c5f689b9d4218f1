import SessionReplay.Program.Shell.State

/-!
# Tools and what they read

Part of what stands in for the programs of a host; no result rests on it.

* `Tool`: what a program does with its arguments.
* `splitFlags`: the letters of the flags of a program and its operands.
* `eachFile`: what is made of every file that is named, or of the input.
-/

namespace SessionReplay.Shell

abbrev Tool := List String → Shell → Shell

/-- A tool that does nothing, with this exit code. -/
def quiet (status : Nat) : Tool := fun _ s => s.exit status

def isFlag (s : String) : Bool := s.toList.head? == some '-' && s != "-"

/-- The letters of all flags, and the operands. -/
def splitFlags (args : List String) : List Char × List String :=
  let (ends, rest) := (args.takeWhile (· != "--"), (args.dropWhile (· != "--")).drop 1)
  ((ends.filter isFlag).flatMap fun a => a.toList.drop 1, (ends.filter fun a => !isFlag a) ++ rest)

def operands (args : List String) : List String := (splitFlags args).2

def withoutFirst (n : Nat) (s : String) : String := String.ofList (s.toList.drop n)

/-- The bytes of a file or of the input, which is then used up. A device may give any number of
bytes, of which no more than so many are wanted. -/
def readSource (wanted : Nat) (path : String) (s : Shell) :
    Except Storage.Fault ByteArray × Shell :=
  match path with
  | "-" | "/dev/stdin" => (.ok s.input, { s with input := ByteArray.empty })
  | "/dev/null" => (.ok ByteArray.empty, s)
  | "/dev/zero" => (.ok ⟨Array.replicate wanted 0⟩, s)
  | _ => (s.disk.read path, s)

/-- What a tool says about a path. -/
def about (tool : String) (path : String) (fault : Storage.Fault) : String :=
  tool ++ ": " ++ path ++ ": " ++ fault.reason

def quotedPath (path : String) : String := "'" ++ path ++ "'"

/-- Goes through the files that are named, or the input if there are none. -/
def eachFile (paths : List String) (wanted : Nat) (complaint : String → Storage.Fault → String)
    (use : String → ByteArray → Shell → Shell) (s : Shell) : Shell :=
  let paths := if paths.isEmpty then ["-"] else paths
  paths.foldl (fun s path =>
    match readSource wanted path s with
    | (.ok bytes, s) => use path bytes s
    | (.error fault, s) => s.complain 1 (complaint path fault)) (s.exit 0)

/-- The bytes of all files that are named, or of the input if there are none. -/
def readAll (status : Nat) (complaint : String → Storage.Fault → String) (paths : List String)
    (s : Shell) : List ByteArray × Shell :=
  (if paths.isEmpty then ["-"] else paths).foldl (fun (all, s) path =>
    match readSource 0 path s with
    | (.ok bytes, s) => (all ++ [bytes], s)
    | (.error fault, s) => (all, s.complain status (complaint path fault))) ([], s.exit 0)

/-- Numbers in columns of a width. -/
def columns (width : Nat) (numbers : List Nat) : String :=
  String.intercalate " " (numbers.map fun n =>
    let text := toString n
    String.ofList (List.replicate (width - text.length) ' ') ++ text)

/-- Bytes as lines without their ends. -/
def linesOf (bytes : ByteArray) : List (List UInt8) :=
  let rec go (line : List UInt8) : List UInt8 → List (List UInt8)
    | [] => if line.isEmpty then [] else [line.reverse]
    | b :: rest => if b = 10 then line.reverse :: go [] rest else go (b :: line) rest
  go [] bytes.toList

def ofLines (lines : List (List UInt8)) : ByteArray :=
  ⟨(lines.flatMap (· ++ [10])).toArray⟩

end SessionReplay.Shell
