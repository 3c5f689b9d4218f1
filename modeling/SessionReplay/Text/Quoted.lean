import SessionReplay.Text.Printable

/-!
# Quoted text

The form in which a message shows a text it was given: between double quotes, with everything
that would not be seen as it is written as an escape.

* `escapeChar`: one character inside the quotes.
* `quoted`: the whole text.
-/

namespace SessionReplay.Text

/-- A number in base sixteen with small letters. -/
def hexDigits (n : Nat) : List Char := Nat.toDigits 16 n

def escapeChar (c : Char) : List Char :=
  match c with
  | '\x00' => ['\\', '0']
  | '\t' => ['\\', 't']
  | '\r' => ['\\', 'r']
  | '\n' => ['\\', 'n']
  | '"' => ['\\', '"']
  | '\\' => ['\\', '\\']
  | c =>
    if isExtending c || !isPrintable c then
      ['\\', 'u', '\x7b'] ++ hexDigits c.toNat ++ ['\x7d']
    else [c]

def quoted (s : String) : String :=
  String.ofList ('"' :: s.toList.flatMap escapeChar ++ ['"'])

end SessionReplay.Text
