/-!
# Media types

What a message says about the kind of its body, such as `application/problem+json`, perhaps with
parameters behind a semicolon.

* `MediaType`: the kind, the subkind and its suffix, in small letters.
* `MediaType.ofText?`, `MediaType.isJson`.
-/

namespace SessionReplay.Net

structure MediaType where
  kind : String
  subkind : String
  suffix : Option String
  deriving DecidableEq, Repr

namespace MediaType

def isTokenChar (c : Char) : Bool :=
  (c.toNat < 0x80 && c.isAlphanum) || "!#$%&'*+-.^_`|~".toList.contains c

/-- A character that may stand in a value between quotes. -/
def isQuotedChar (c : Char) : Bool := 0x20 ≤ c.toNat && c.toNat != 0x7f

/-- What stands behind the quote that ends a value; the value holds one character at least, which
may be a quote itself. -/
def afterQuoted? : List Char → Option (List Char)
  | [] => none
  | first :: cs =>
    if !isQuotedChar first then none
    else
      match cs.dropWhile fun c => isQuotedChar c && c != '"' with
      | '"' :: rest => some rest
      | _ => none

mutual

/-- Whether these are parameters, each with a name and a value. -/
def areParameters : Nat → List Char → Bool
  | 0, _ => false
  | fuel + 1, cs =>
    let cs := cs.dropWhile (· == ' ')
    if cs.isEmpty then true
    else
      let name := cs.takeWhile isTokenChar
      match cs.dropWhile isTokenChar with
      | '=' :: rest => !name.isEmpty && isValue fuel rest
      | _ => false

/-- Whether these begin with a value, and all behind it are parameters. -/
def isValue : Nat → List Char → Bool
  | 0, _ => false
  | fuel + 1, '"' :: cs =>
    match (afterQuoted? cs).map (·.dropWhile (· == ' ')) with
    | some [] => true
    | some (';' :: rest) => areParameters fuel rest
    | _ => false
  | fuel + 1, cs =>
    match cs.dropWhile isTokenChar with
    | [] => true
    | ';' :: rest => !(cs.takeWhile isTokenChar).isEmpty && areParameters fuel rest
    | _ => false

end

def small (cs : List Char) : String := String.ofList (cs.map Char.toLower)

/-- A subkind and what stands behind its last plus sign. -/
def splitSuffix (cs : List Char) : String × Option String :=
  let reversed := cs.reverse
  match reversed.dropWhile (· != '+') with
  | _ :: before =>
    if before.isEmpty then (small cs, none)
    else (small before.reverse, some (small (reversed.takeWhile (· != '+')).reverse))
  | [] => (small cs, none)

def ofText? (text : String) : Option MediaType :=
  let cs := text.toList
  let kind := cs.takeWhile isTokenChar
  match cs.dropWhile isTokenChar with
  | '/' :: rest =>
    let subkind := rest.takeWhile isTokenChar
    let sound := match rest.dropWhile isTokenChar with
      | [] => true
      | ';' :: parameters => areParameters text.length.succ parameters
      | _ => false
    if kind.isEmpty || subkind.isEmpty || !sound then none
    else some ⟨small kind, (splitSuffix subkind).1, (splitSuffix subkind).2⟩
  | _ => none

/-- A JSON document, or one of a format that is written in JSON. -/
def isJson (m : MediaType) : Bool :=
  m.kind == "application" && (m.subkind == "json" || m.suffix == some "json")

end MediaType
end SessionReplay.Net
