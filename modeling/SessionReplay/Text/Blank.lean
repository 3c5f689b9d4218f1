/-!
# Blank characters

The white space of Unicode, which separates the words of a command line and which does not
count when a setting or a title is looked at.

* `isBlank`: the property `White_Space`.
* `trimStart`, `trim`, `isBlankText`: text without its blank ends.
* `words`: the maximal runs of characters that are not blank.
-/

namespace SessionReplay.Text

/-- The code points with the property `White_Space`, as closed ranges. -/
def blankRanges : List (Nat × Nat) :=
  [(0x9, 0xD), (0x20, 0x20), (0x85, 0x85), (0xA0, 0xA0), (0x1680, 0x1680), (0x2000, 0x200A),
   (0x2028, 0x2029), (0x202F, 0x202F), (0x205F, 0x205F), (0x3000, 0x3000)]

def isBlank (c : Char) : Bool :=
  blankRanges.any fun (lo, hi) => lo ≤ c.toNat && c.toNat ≤ hi

/-! ## Blank ends -/

def trimStart (s : String) : String := String.ofList (s.toList.dropWhile isBlank)

def trimChars (cs : List Char) : List Char :=
  ((cs.dropWhile isBlank).reverse.dropWhile isBlank).reverse

def trim (s : String) : String := String.ofList (trimChars s.toList)

/-- Nothing but blanks. -/
def isBlankText (s : String) : Bool := s.toList.all isBlank

/-! ## Words -/

/-- The words of a text, given the letters of the word that is being read, last letter first. -/
def wordsFrom : List Char → List Char → List (List Char)
  | [], [] => []
  | current, [] => [current.reverse]
  | current, c :: rest =>
    if isBlank c then
      if current.isEmpty then wordsFrom [] rest else current.reverse :: wordsFrom [] rest
    else wordsFrom (c :: current) rest

def wordChars (cs : List Char) : List (List Char) := wordsFrom [] cs

def words (s : String) : List String := (wordChars s.toList).map String.ofList

end SessionReplay.Text
