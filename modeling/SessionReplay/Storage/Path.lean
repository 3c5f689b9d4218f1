/-!
# Paths

Paths are texts; most questions about them look at their parts, of which empty ones and single
dots behind the first do not count.

* `Path.parts`: the parts of a path.
* `Path.fileName?`, `Path.stem?`, `Path.extension?`, `Path.parent?`.
* `Path.join`: a path seen from a directory.
-/

namespace SessionReplay.Path

inductive Part where
  | root
  | here
  | up
  | name (s : String)
  deriving DecidableEq, Repr

/-- The pieces between the slashes: one more than there are slashes. -/
def splitSlashes : List Char → List (List Char)
  | [] => [[]]
  | '/' :: rest => [] :: splitSlashes rest
  | c :: rest =>
    match splitSlashes rest with
    | [] => [[c]]
    | piece :: more => (c :: piece) :: more

def pieces (path : String) : List String := (splitSlashes path.toList).map String.ofList

def partOf (piece : String) : Option Part :=
  if piece.isEmpty || piece == "." then none
  else if piece == ".." then some .up
  else some (.name piece)

def parts (path : String) : List Part :=
  let all := pieces path
  let inner := all.filterMap partOf
  if path.isEmpty then []
  else
    match all with
    | "" :: _ => .root :: inner
    | "." :: _ => .here :: inner
    | _ => inner

def isAbsolute (path : String) : Bool := path.toList.head? == some '/'

/-- The last part, where it is a name. -/
def fileName? (path : String) : Option String :=
  match (parts path).getLast? with
  | some (.name s) => some s
  | _ => none

/-- A name without its extension, and the extension: what stands behind its last dot, unless
nothing stands before that. -/
def splitName (name : String) : String × Option String :=
  let reversed := name.toList.reverse
  let ext := (reversed.takeWhile (· != '.')).reverse
  let before := ((reversed.dropWhile (· != '.')).drop 1).reverse
  if before.isEmpty then (name, none) else (String.ofList before, some (String.ofList ext))

def stem? (path : String) : Option String := (fileName? path).map fun n => (splitName n).1

def extension? (path : String) : Option String := (fileName? path).bind fun n => (splitName n).2

/-- A path without slashes and lone dots at its end, except a slash that is all of it. -/
def trimEnd (reversed : List Char) : List Char :=
  match reversed with
  | '/' :: c :: rest => trimEnd (c :: rest)
  | '.' :: '/' :: rest => trimEnd ('/' :: rest)
  | _ => reversed

/-- The path without its last part. -/
def parent? (path : String) : Option String :=
  match (parts path).getLast? with
  | none | some .root => none
  | some _ =>
    let body := trimEnd path.toList.reverse
    some (String.ofList (trimEnd (body.dropWhile (· != '/'))).reverse)

/-- The paths above a path, the next one first. A path has fewer of them than characters. -/
def above (path : String) : List String := go path.length path
where
  go : Nat → String → List String
    | 0, _ => []
    | n + 1, path =>
      match parent? path with
      | none => []
      | some up => up :: go n up

/-- A path and those above it. -/
def upwards (path : String) : List String := path :: above path

/-- A path as it is seen from a directory; an absolute one stays as it is. -/
def join (directory path : String) : String :=
  if isAbsolute path || directory.isEmpty then path
  else if directory.toList.getLast? == some '/' then directory ++ path
  else directory ++ "/" ++ path

end SessionReplay.Path
