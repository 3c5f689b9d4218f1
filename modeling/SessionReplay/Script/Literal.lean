/-!
# Text inside a script

Two ways to carry a text of a recording into a generated script.

* `quote`: a string literal between single quotes.
* `flatten`: a text on one line, for a comment.
-/

namespace SessionReplay.Script

/-- One character inside a literal. -/
def escapeQuoted : Char → List Char
  | '\\' => ['\\', '\\']
  | '\'' => ['\\', '\'']
  | '\n' => ['\\', 'n']
  | '\r' => ['\\', 'r']
  | c => [c]

def quoteChars (cs : List Char) : List Char := '\'' :: cs.flatMap escapeQuoted ++ ['\'']

def quote (s : String) : String := String.ofList (quoteChars s.toList)

/-- Line breaks, of one character or two, turned into a space each. -/
def flattenChars : List Char → List Char
  | [] => []
  | '\r' :: '\n' :: rest => ' ' :: flattenChars rest
  | c :: rest => (if c = '\r' ∨ c = '\n' then ' ' else c) :: flattenChars rest

def flatten (s : String) : String := String.ofList (flattenChars s.toList)

end SessionReplay.Script
