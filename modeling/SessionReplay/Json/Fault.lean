import SessionReplay.Json.Print
import SessionReplay.Text.Quoted

/-!
# What can be wrong with a document

* `Grammar`: the ways in which a text is not JSON.
* `Cause`: a grammar error, or a value of the wrong kind.
* `Fault`: a cause, the place where it was noticed if the value came from a text, and the path to
  the value.
-/

namespace SessionReplay.Json

/-- A position in a text: lines count from one, columns count the bytes since the line began. -/
structure Place where
  line : Nat
  column : Nat
  deriving DecidableEq, Repr, Inhabited

inductive Grammar where
  | endInList
  | endInObject
  | endInString
  | endInValue
  | expectedColon
  | expectedListCommaOrEnd
  | expectedObjectCommaOrEnd
  | expectedIdent
  | expectedValue
  | invalidEscape
  | invalidNumber
  | numberOutOfRange
  | loneSurrogate
  | halfSurrogatePair
  | controlCharacter
  | keyNotString
  | trailingComma
  | trailingCharacters
  | tooDeep
  deriving DecidableEq, Repr

def Grammar.message : Grammar → String
  | endInList => "EOF while parsing a list"
  | endInObject => "EOF while parsing an object"
  | endInString => "EOF while parsing a string"
  | endInValue => "EOF while parsing a value"
  | expectedColon => "expected `:`"
  | expectedListCommaOrEnd => "expected `,` or `]`"
  | expectedObjectCommaOrEnd => "expected `,` or `\x7d`"
  | expectedIdent => "expected ident"
  | expectedValue => "expected value"
  | invalidEscape => "invalid escape"
  | invalidNumber => "invalid number"
  | numberOutOfRange => "number out of range"
  | loneSurrogate => "lone leading surrogate in hex escape"
  | halfSurrogatePair => "unexpected end of hex escape"
  | controlCharacter => "control character (\\u0000-\\u001F) found while parsing a string"
  | keyNotString => "key must be a string"
  | trailingComma => "trailing comma"
  | trailingCharacters => "trailing characters"
  | tooDeep => "recursion limit exceeded"

/-- The value that was found where another one was wanted. -/
inductive Found where
  | null
  | bool (b : Bool)
  | number (n : Number)
  | string (s : String)
  | sequence
  | map
  deriving DecidableEq, Repr

def Found.message : Found → String
  | null => "null"
  | bool b => "boolean `" ++ (if b then "true" else "false") ++ "`"
  | number (.real x) => "floating point `" ++ (Number.real x).text ++ "`"
  | number n => "integer `" ++ n.text ++ "`"
  | string s => "string " ++ Text.quoted s
  | sequence => "sequence"
  | map => "map"

inductive Cause where
  | grammar (g : Grammar)
  | invalidType (found : Found) (wanted : String)
  | invalidValue (found : Found) (wanted : String)
  | invalidLength (length : Nat) (wanted : String)
  | unknownVariant (name : String) (known : List String)
  | missingField (name : String)
  | duplicateField (name : String)
  /-- A text that its reader refuses, for the reason given. -/
  | refused (reason : String)
  deriving DecidableEq, Repr

def listKnown (known : List String) : String :=
  match known with
  | [] => "there are no variants"
  | [a] => "`" ++ a ++ "`"
  | [a, b] => "`" ++ a ++ "` or `" ++ b ++ "`"
  | _ => "one of " ++ String.intercalate ", " (known.map fun a => "`" ++ a ++ "`")

def Cause.message : Cause → String
  | grammar g => g.message
  | invalidType found wanted => "invalid type: " ++ found.message ++ ", expected " ++ wanted
  | invalidValue found wanted => "invalid value: " ++ found.message ++ ", expected " ++ wanted
  | invalidLength length wanted =>
    "invalid length " ++ toString length ++ ", expected " ++ wanted
  | unknownVariant name known =>
    "unknown variant `" ++ name ++ "`, expected " ++ listKnown known
  | missingField name => "missing field `" ++ name ++ "`"
  | duplicateField name => "duplicate field `" ++ name ++ "`"
  | refused reason => reason

/-- One step on the way from a document to a value in it. -/
inductive Segment where
  | member (name : String)
  | item (index : Nat)
  /-- A member whose name was not read. -/
  | unnamed
  deriving DecidableEq, Repr

structure Fault where
  cause : Cause
  place : Option Place
  path : List Segment
  deriving DecidableEq, Repr

namespace Fault

def plain (cause : Cause) : Fault := ⟨cause, none, []⟩

def grammar (g : Grammar) (place : Option Place) : Fault := ⟨.grammar g, place, []⟩

/-- The fault seen from one level further out. -/
def within (segment : Segment) (f : Fault) : Fault := { f with path := segment :: f.path }

/-- A fault that has no place yet gets this one. -/
def placedAt (place : Option Place) (f : Fault) : Fault :=
  { f with place := f.place <|> place }

def message (f : Fault) : String :=
  match f.place with
  | none => f.cause.message
  | some p => f.cause.message ++ s!" at line {p.line} column {p.column}"

/-- The path to the value, if any step of it is known. -/
def pathText? (f : Fault) : Option String :=
  if f.path.all (· == .unnamed) then none else some (go "" f.path)
where
  go (before : String) : List Segment → String
    | [] => ""
    | .member name :: rest => before ++ name ++ go "." rest
    | .item index :: rest => s!"[{index}]" ++ go "." rest
    | .unnamed :: rest => before ++ "?" ++ go "." rest

def isGrammar (f : Fault) : Bool :=
  match f.cause with
  | .grammar _ => true
  | _ => false

end Fault
end SessionReplay.Json
