import SessionReplay.Decimal.Shortest
import SessionReplay.Json.Basic

/-!
# The text of a JSON value

* `Json.style`: how a double is laid out in a document.
* `Json.compact`: the text without any white space.
* `Json.pretty`: one item a line, indented by two spaces for each level.
-/

namespace SessionReplay

/-- A double always shows that it is one, by a fraction or an exponent; the exponent is used from
`1e+16` up and below `1e-5`. -/
def Json.style : DecimalStyle := ⟨fun e => -5 ≤ e && e < 16, ".0"⟩

def Number.text : Number → String
  | .natural n => toString n.toNat
  | .negative n => "-" ++ toString (n.val + 1)
  | .real x => Json.style.write x

namespace Json

/-! ## Strings -/

def hexDigit (n : Nat) : Char := Nat.digitChar (n % 16)

def escape (c : Char) : List Char :=
  match c with
  | '"' => ['\\', '"']
  | '\\' => ['\\', '\\']
  | '\x08' => ['\\', 'b']
  | '\x0c' => ['\\', 'f']
  | '\n' => ['\\', 'n']
  | '\r' => ['\\', 'r']
  | '\t' => ['\\', 't']
  | c =>
    if c.toNat < 0x20 then ['\\', 'u', '0', '0', hexDigit (c.toNat / 16), hexDigit c.toNat]
    else [c]

def stringText (s : String) : String := String.ofList ('"' :: s.toList.flatMap escape ++ ['"'])

/-! ## Compact text -/

mutual

def compact : Json → String
  | .null => "null"
  | .bool b => if b then "true" else "false"
  | .number n => n.text
  | .string s => stringText s
  | .array items => "[" ++ compactItems "" items ++ "]"
  | .object members => "\x7b" ++ compactMembers "" members ++ "\x7d"

/-- The items of an array, each after the separator that it needs. -/
def compactItems (before : String) : List Json → String
  | [] => ""
  | v :: rest => before ++ compact v ++ compactItems "," rest

def compactMembers (before : String) : List (String × Json) → String
  | [] => ""
  | (k, v) :: rest => before ++ stringText k ++ ":" ++ compact v ++ compactMembers "," rest

end

/-! ## Indented text -/

def indent (level : Nat) : String := String.ofList (List.replicate (2 * level) ' ')

mutual

def prettyAt (level : Nat) : Json → String
  | .array items =>
    if items.isEmpty then "[]"
    else "[" ++ prettyItems level "\n" items ++ "\n" ++ indent level ++ "]"
  | .object members =>
    if members.isEmpty then "\x7b\x7d"
    else "\x7b" ++ prettyMembers level "\n" members ++ "\n" ++ indent level ++ "\x7d"
  | .null => "null"
  | .bool b => if b then "true" else "false"
  | .number n => n.text
  | .string s => stringText s

def prettyItems (level : Nat) (before : String) : List Json → String
  | [] => ""
  | v :: rest =>
    before ++ indent (level + 1) ++ prettyAt (level + 1) v ++ prettyItems level ",\n" rest

def prettyMembers (level : Nat) (before : String) : List (String × Json) → String
  | [] => ""
  | (k, v) :: rest =>
    before ++ indent (level + 1) ++ stringText k ++ ": " ++ prettyAt (level + 1) v
      ++ prettyMembers level ",\n" rest

end

def pretty (v : Json) : String := prettyAt 0 v

end Json
end SessionReplay
