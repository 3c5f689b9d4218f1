import SessionReplay.Storage.Disk

/-!
# Patterns of shell scripts

Part of what stands in for the programs of a host; no result rests on it.

A pattern is a text in which a star stands for any characters, a question mark for one, and
brackets for one of a set, unless these characters were quoted.

* `Glyph`: a character, and whether it was quoted.
* `matchesPattern`.
* `pathsOf`: the paths that a pattern stands for.
* `withoutFront`, `withoutBack`: a text without what a pattern takes from it.
-/

namespace SessionReplay.Shell

structure Glyph where
  char : Char
  isQuoted : Bool
  deriving DecidableEq, Repr

abbrev Glyphs := List Glyph

def glyphs (isQuoted : Bool) (s : String) : Glyphs := s.toList.map (⟨·, isQuoted⟩)

def textOf (gs : Glyphs) : String := String.ofList (gs.map (·.char))

/-- Whether a glyph makes a text a pattern. -/
def Glyph.isActive (g : Glyph) : Bool := !g.isQuoted && "*?[".toList.contains g.char

/-- The set between brackets and what stands behind it. -/
def bracketSet? (gs : Glyphs) : Option (List Char × Glyphs) :=
  let inside := gs.takeWhile fun g => g.char != ']'
  match gs.drop inside.length with
  | _ :: rest => if inside.isEmpty then none else some (inside.map (·.char), rest)
  | [] => none

/-- Whether a character is in a set, in which ranges are written with a hyphen. -/
def inSet (c : Char) : List Char → Bool
  | a :: '-' :: b :: rest => (a ≤ c && c ≤ b) || inSet c rest
  | a :: rest => a == c || inSet c rest
  | [] => false

def inBrackets (c : Char) (set : List Char) : Bool :=
  match set with
  | '!' :: rest => !inSet c rest
  | _ => inSet c set

def matchesFrom : Nat → Glyphs → List Char → Bool
  | 0, _, _ => false
  | _ + 1, [], cs => cs.isEmpty
  | fuel + 1, g :: gs, cs =>
    if g.isQuoted then
      match cs with
      | c :: rest => c == g.char && matchesFrom fuel gs rest
      | [] => false
    else
      match g.char, cs with
      | '*', [] => matchesFrom fuel gs []
      | '*', c :: rest => matchesFrom fuel gs (c :: rest) || matchesFrom fuel (g :: gs) rest
      | '?', _ :: rest => matchesFrom fuel gs rest
      | '[', c :: rest =>
        match bracketSet? gs with
        | some (set, behind) => inBrackets c set && matchesFrom fuel behind rest
        | none => c == '[' && matchesFrom fuel gs rest
      | x, c :: rest => c == x && matchesFrom fuel gs rest
      | _, [] => false

def matchesPattern (pattern : Glyphs) (s : String) : Bool :=
  matchesFrom (pattern.length + s.length + 2) pattern s.toList

/-! ## Paths -/

/-- The glyphs between slashes. -/
def splitPath : Glyphs → List Glyphs
  | [] => [[]]
  | g :: gs =>
    match splitPath gs with
    | [] => [[g]]
    | piece :: more => if g.char = '/' then [] :: piece :: more else (g :: piece) :: more

def sortTexts (l : List String) : List String := l.mergeSort fun a b => decide (a ≤ b)

/-- The names in a folder that a pattern stands for. A name with a dot in front has to be asked
for. -/
def namesOf (d : Disk) (folder : String) (piece : Glyphs) : List String :=
  let dotted := piece.head?.any (·.char == '.')
  match d.list (if folder.isEmpty then "." else folder) with
  | .ok names =>
    sortTexts (names.filter fun n =>
      (dotted || n.toList.head? != some '.') && matchesPattern piece n)
  | .error _ => []

/-- The paths that stand for a pattern whose pieces are left, seen from those found so far. -/
def extend (d : Disk) (found : List String) : List Glyphs → List String
  | [] => found.filter d.has
  | piece :: rest =>
    let found := found.flatMap fun before =>
      if piece.any Glyph.isActive then
        (namesOf d before piece).map (before ++ ·)
      else [before ++ textOf piece]
    extend d (if rest.isEmpty then found else found.map (· ++ "/")) rest

/-- The paths of a pattern in order, or its text if there are none. -/
def pathsOf (d : Disk) (pattern : Glyphs) : List String :=
  if pattern.any Glyph.isActive then
    match extend d [""] (splitPath pattern) with
    | [] => [textOf pattern]
    | found => found
  else [textOf pattern]

/-! ## Parts of texts -/

/-- The first of the numbers for which a text of so many characters is taken. -/
def cutAt (lengths : List Nat) (takes : Nat → Bool) (rest : Nat → String) (whole : String) :
    String :=
  match lengths.find? takes with
  | some n => rest n
  | none => whole

def withoutFront (longest : Bool) (pattern : Glyphs) (s : String) : String :=
  let cs := s.toList
  let lengths := List.range (cs.length + 1)
  cutAt (if longest then lengths.reverse else lengths)
    (fun n => matchesPattern pattern (String.ofList (cs.take n)))
    (fun n => String.ofList (cs.drop n)) s

def withoutBack (longest : Bool) (pattern : Glyphs) (s : String) : String :=
  let cs := s.toList
  let lengths := List.range (cs.length + 1)
  cutAt (if longest then lengths else lengths.reverse)
    (fun n => matchesPattern pattern (String.ofList (cs.drop n)))
    (fun n => String.ofList (cs.take n)) s

end SessionReplay.Shell
