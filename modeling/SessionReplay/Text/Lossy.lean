/-!
# Bytes read as text

Bytes are read as UTF-8, whatever they are. Where no character stands, as many bytes as can begin
one, and at least one, are read as U+FFFD.

* `Text.utf8`: the bytes of a text.
* `Text.lossy`: the text of bytes.
-/

namespace SessionReplay.Text

def utf8 (s : String) : List UInt8 := s.toUTF8.data.toList

/-- The bytes that a character can have behind its first one, as closed ranges. -/
def tails (first : UInt8) : List (UInt8 × UInt8) :=
  let tail : UInt8 × UInt8 := (0x80, 0xBF)
  if 0xC2 ≤ first ∧ first ≤ 0xDF then [tail]
  else if first = 0xE0 then [(0xA0, 0xBF), tail]
  else if first = 0xED then [(0x80, 0x9F), tail]
  else if 0xE1 ≤ first ∧ first ≤ 0xEF then [tail, tail]
  else if first = 0xF0 then [(0x90, 0xBF), tail, tail]
  else if first = 0xF4 then [(0x80, 0x8F), tail, tail]
  else if 0xF1 ≤ first ∧ first ≤ 0xF3 then [tail, tail, tail]
  else []

/-- How many bytes at the front are each in their range. -/
def fitting : List (UInt8 × UInt8) → List UInt8 → Nat
  | (lo, hi) :: ranges, b :: bytes => if lo ≤ b ∧ b ≤ hi then fitting ranges bytes + 1 else 0
  | _, _ => 0

/-- What is read from a byte on, and how many more bytes are part of it. -/
def firstChar (first : UInt8) (rest : List UInt8) : Char × Nat :=
  match (first :: rest.take 3).toByteArray.utf8DecodeChar? 0 with
  | some c => (c, c.utf8Size - 1)
  | none => ('\uFFFD', fitting (tails first) rest)

/-- What is read from bytes of which some at the front were read before. -/
def lossyChars : Nat → List UInt8 → List Char
  | _, [] => []
  | n + 1, _ :: rest => lossyChars n rest
  | 0, first :: rest =>
    let (c, n) := firstChar first rest
    c :: lossyChars n rest

def lossy (bytes : List UInt8) : String := String.ofList (lossyChars 0 bytes)

end SessionReplay.Text
