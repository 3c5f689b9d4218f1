import SessionReplay.Net.Percent

/-!
# Addresses

The address of a resource on the web: scheme, host, path, query and fragment. Reading an address
brings it into its normal form: blanks at its ends and line breaks are dropped, a backslash is a
slash, dot segments are resolved, and what may not stand in a part is percent encoded.

* `baseAddress`: the common beginning of the addresses of a service.
* `Url`: the parts.
* `Url.ofText?`: the address in a text, if it is one.
* `Url.text`, `Url.requestTarget`: the whole of it, and what a server is told.
* `Url.withQuery`: more fields for the query.
-/

namespace SessionReplay.Net

/-- An address to which paths are added, without slashes at its end. -/
def baseAddress (s : String) : String :=
  String.ofList (s.toList.reverse.dropWhile (· == '/')).reverse

structure Url where
  scheme : String
  /-- The host, with the port where it is not the usual one. -/
  host : String
  /-- The segments of the path. -/
  path : List String
  query : Option String
  fragment : Option String
  deriving DecidableEq, Repr

namespace Url

/-! ## Writing -/

def pathText (u : Url) : String := String.join (u.path.map ("/" ++ ·))

def queryText (u : Url) : String :=
  match u.query with
  | some query => "?" ++ query
  | none => ""

/-- What stands in a request to the host. -/
def requestTarget (u : Url) : String := u.pathText ++ u.queryText

def text (u : Url) : String :=
  u.scheme ++ "://" ++ u.host ++ u.requestTarget ++
    match u.fragment with
    | some fragment => "#" ++ fragment
    | none => ""

/-- The address with fields added to its query. -/
def withQuery (u : Url) (fields : List (String × String)) : Url :=
  let added := String.intercalate "&" (fields.map fun f => formEncode f.1 ++ "=" ++ formEncode f.2)
  let query := match u.query with
    | some old => if old.isEmpty then added else old ++ "&" ++ added
    | none => added
  { u with query := some query }

/-! ## Reading -/

/-- The text without blanks and control characters at its ends, and without tabs and line breaks. -/
def tidy (cs : List Char) : List Char :=
  let isEdge (c : Char) : Bool := c.toNat ≤ 0x20
  let cs := ((cs.dropWhile isEdge).reverse.dropWhile isEdge).reverse
  cs.filter fun c => c != '\t' && c != '\n' && c != '\r'

def isSlash (c : Char) : Bool := c == '/' || c == '\\'

/-- The port that need not be written. -/
def usualPort? (scheme : String) : Option Nat :=
  if scheme = "http" then some 80 else if scheme = "https" then some 443 else none

def forbiddenInHost (c : Char) : Bool := isControl c || " #%/:<>?@[\\]^|".toList.contains c

/-- The host of an address, which has no credentials. -/
def host? (usual : Nat) (cs : List Char) : Option String :=
  let name := cs.takeWhile (· != ':')
  let port := (cs.dropWhile (· != ':')).drop 1
  if name.isEmpty || name.any forbiddenInHost || !port.all Char.isDigit then none
  else
    let host := String.ofList (name.map Char.toLower)
    let n : Nat := port.foldl (fun n c => 10 * n + (c.toNat - 48)) 0
    if 65535 < n then none
    else if port.isEmpty || n = usual then some host
    else some (host ++ ":" ++ toString n)

/-- The segments between slashes. -/
def segments : List Char → List (List Char)
  | [] => [[]]
  | c :: rest =>
    if isSlash c then [] :: segments rest
    else
      match segments rest with
      | [] => [[c]]
      | s :: more => (c :: s) :: more

/-- Whether a segment is this many dots, each perhaps in its encoded form. -/
def isDots : Nat → List Char → Bool
  | 0, cs => cs.isEmpty
  | n + 1, '.' :: rest => isDots n rest
  | n + 1, '%' :: '2' :: e :: rest => (e == 'e' || e == 'E') && isDots n rest
  | _ + 1, _ => false

/-- The path without dot segments; `done` holds the segments before, the last one first. -/
def resolveDots (done : List String) : List (List Char) → List String
  | [] => done.reverse
  | s :: rest =>
    let isLast := rest.isEmpty
    if isDots 2 s then resolveDots (if isLast then "" :: done.drop 1 else done.drop 1) rest
    else if isDots 1 s then resolveDots (if isLast then "" :: done else done) rest
    else resolveDots (String.ofList (percentEncodeChars encodedInPath s) :: done) rest

def ofText? (text : String) : Option Url := do
  let cs := tidy text.toList
  let scheme := String.ofList ((cs.takeWhile (· != ':')).map Char.toLower)
  let usual ← usualPort? scheme
  let cs := ((cs.dropWhile (· != ':')).drop 1).dropWhile isSlash
  let endsHost (c : Char) : Bool := isSlash c || c == '?' || c == '#'
  let host ← host? usual (cs.takeWhile fun c => !endsHost c)
  let cs := cs.dropWhile fun c => !endsHost c
  let path := cs.takeWhile fun c => c != '?' && c != '#'
  let cs := cs.dropWhile fun c => c != '?' && c != '#'
  let fragment := match cs.dropWhile (· != '#') with
    | [] => none
    | _ :: rest => some (String.ofList (percentEncodeChars encodedInFragment rest))
  let query := match cs with
    | '?' :: rest =>
      some (String.ofList (percentEncodeChars encodedInQuery (rest.takeWhile (· != '#'))))
    | _ => none
  let inner := if path.isEmpty then path else path.drop 1
  some ⟨scheme, host, resolveDots [] (segments inner), query, fragment⟩

end Url
end SessionReplay.Net
