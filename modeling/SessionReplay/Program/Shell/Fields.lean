import SessionReplay.Program.Shell.Pattern

/-!
# Fields of shell scripts

Part of what stands in for the programs of a host; no result rests on it.

A word becomes one field, unless values in it are split at separators.

* `splitValue`: the pieces of a value.
* `Fields`: the fields of a word that is being expanded.
-/

namespace SessionReplay.Shell

/-- A value that was split: whether it begins and ends with a separator, and what stands between. -/
structure Pieces where
  isLoose : Bool
  pieces : List String
  isEnded : Bool
  deriving DecidableEq, Repr

def isBlank (c : Char) : Bool := c == ' ' || c == '\t' || c == '\n'

/-- A text without the separator in front: blanks with at most one other separator. -/
def skipSeparator (separators : List Char) (cs : List Char) : List Char :=
  let blank (c : Char) : Bool := isBlank c && separators.contains c
  match cs.dropWhile blank with
  | c :: rest => if separators.contains c then rest.dropWhile blank else c :: rest
  | [] => []

def piecesFrom (separators : List Char) : Nat → List Char → List String × Bool
  | 0, _ => ([], false)
  | _ + 1, [] => ([], true)
  | fuel + 1, cs =>
    let piece := cs.takeWhile fun c => !separators.contains c
    match cs.drop piece.length with
    | [] => ([String.ofList piece], false)
    | rest =>
      let (more, isEnded) := piecesFrom separators fuel (skipSeparator separators rest)
      (String.ofList piece :: more, isEnded)

def splitValue (separators : List Char) (value : String) : Pieces :=
  let cs := value.toList
  let inner := cs.dropWhile fun c => isBlank c && separators.contains c
  let (pieces, isEnded) := piecesFrom separators (inner.length + 1) inner
  ⟨inner.length < cs.length, pieces, isEnded && !pieces.isEmpty⟩

/-- The fields of a word, the last one first; that one is still open if `isOpen`. -/
structure Fields where
  fields : List Glyphs := []
  isOpen : Bool := false

namespace Fields

def add (f : Fields) (gs : Glyphs) : Fields :=
  match f.fields, f.isOpen with
  | last :: rest, true => ⟨(last ++ gs) :: rest, true⟩
  | fields, _ => ⟨gs :: fields, true⟩

def close (f : Fields) : Fields := { f with isOpen := false }

/-- Adds texts each of which is a field of its own; the last one stays open. -/
def addEach (isQuoted : Bool) (f : Fields) : List String → Fields
  | [] => f
  | [text] => f.add (glyphs isQuoted text)
  | text :: rest => addEach isQuoted (f.add (glyphs isQuoted text)).close rest

def addSplit (separators : List Char) (f : Fields) (value : String) : Fields :=
  let split := splitValue separators value
  let f := if split.isLoose then f.close else f
  let f := addEach false f split.pieces
  if split.isEnded then f.close else f

def toList (f : Fields) : List Glyphs := f.fields.reverse

end Fields
end SessionReplay.Shell
