/-!
# Percent encoding

Bytes that may not stand in a part of an address are written with a percent sign and two digits
in base sixteen.

* `percentByte`: one byte, written that way.
* `percentEncode`: a text, with the characters that have to be encoded given by a predicate.
* `formEncode`: the value of a form field, where a space becomes a plus sign.
-/

namespace SessionReplay.Net

/-- A digit in base sixteen, with a capital letter. -/
def capitalDigit (n : Nat) : Char := (Nat.digitChar (n % 16)).toUpper

def percentByte (b : UInt8) : List Char := ['%', capitalDigit (b.toNat / 16), capitalDigit b.toNat]

def percentChar (c : Char) : List Char := (String.utf8EncodeChar c).flatMap percentByte

def percentEncodeChars (mustEncode : Char → Bool) (cs : List Char) : List Char :=
  cs.flatMap fun c => if mustEncode c then percentChar c else [c]

def percentEncode (mustEncode : Char → Bool) (s : String) : String :=
  String.ofList (percentEncodeChars mustEncode s.toList)

/-! ## The parts of an address -/

/-- Control characters and all that is not ASCII. -/
def isControl (c : Char) : Bool := c.toNat < 0x20 || 0x7e < c.toNat

def encodedInQuery (c : Char) : Bool := isControl c || " \"#<>'".toList.contains c

def encodedInPath (c : Char) : Bool := isControl c || " \"#<>?^`\x7b\x7d".toList.contains c

def encodedInFragment (c : Char) : Bool := isControl c || " \"<>`".toList.contains c

/-! ## Form fields -/

def formChar (c : Char) : List Char :=
  if c = ' ' then ['+']
  else if c.isAlphanum || "*-._".toList.contains c then [c]
  else percentChar c

def formEncode (s : String) : String := String.ofList (s.toList.flatMap formChar)

end SessionReplay.Net
