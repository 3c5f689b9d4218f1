import SessionReplay.Program.Shell.Tool.Basic

/-!
# Searching lines

Part of what stands in for the programs of a host; no result rests on it.

Patterns of lines: a dot stands for any byte, a star for any number of what is in front of it, a
caret and a dollar sign for the ends of the line.

* `isIn`: whether a pattern is found in a line.
* `grep`: writes the lines in which a pattern is found.
-/

namespace SessionReplay.Shell

inductive Atom where
  | byte (b : UInt8)
  | any
  | oneOf (isIn : Bool) (set : List UInt8)
  deriving DecidableEq, Repr

/-- An atom as often as is said: once, or any number of times. -/
structure Item where
  atom : Atom
  isRepeated : Bool
  deriving DecidableEq, Repr

structure LinePattern where
  fromStart : Bool
  items : List Item
  toEnd : Bool
  deriving DecidableEq, Repr

def Atom.matches : Atom → UInt8 → Bool
  | .byte a, b => a == b
  | .any, _ => true
  | .oneOf isIn set, b => set.contains b == isIn

/-- A set between brackets as bytes. -/
def rangeBytes : List UInt8 → List UInt8
  | a :: 45 :: b :: rest =>
    (List.range (b.toNat + 1 - a.toNat)).map (fun i => a + i.toUInt8) ++ rangeBytes rest
  | a :: rest => a :: rangeBytes rest
  | [] => []

def readAtom : List UInt8 → Option (Atom × List UInt8)
  | [] => none
  | 46 :: rest => some (.any, rest)
  | 92 :: b :: rest => some (.byte b, rest)
  | 91 :: rest =>
    let (isIn, rest) := match rest with
      | 94 :: rest => (false, rest)
      | rest => (true, rest)
    let set := rest.takeWhile (· != 93)
    some (.oneOf isIn (rangeBytes set), rest.drop (set.length + 1))
  | b :: rest => some (.byte b, rest)

def readItems : Nat → List UInt8 → List Item × Bool
  | 0, _ => ([], false)
  | _ + 1, [] => ([], false)
  | _ + 1, [36] => ([], true)
  | fuel + 1, bytes =>
    match readAtom bytes with
    | none => ([], false)
    | some (atom, 42 :: rest) =>
      let (items, toEnd) := readItems fuel rest
      (⟨atom, true⟩ :: items, toEnd)
    | some (atom, rest) =>
      let (items, toEnd) := readItems fuel rest
      (⟨atom, false⟩ :: items, toEnd)

def LinePattern.ofText (text : String) : LinePattern :=
  let bytes := text.toUTF8.toList
  let (fromStart, bytes) := match bytes with
    | 94 :: rest => (true, rest)
    | bytes => (false, bytes)
  let (items, toEnd) := readItems (bytes.length + 1) bytes
  ⟨fromStart, items, toEnd⟩

/-- A pattern all of whose characters stand for themselves. -/
def LinePattern.ofPlain (text : String) : LinePattern :=
  ⟨false, text.toUTF8.toList.map fun b => ⟨.byte b, false⟩, false⟩

def matchItems (toEnd : Bool) : Nat → List Item → List UInt8 → Bool
  | 0, _, _ => false
  | _ + 1, [], line => !toEnd || line.isEmpty
  | fuel + 1, item :: items, line =>
    match line with
    | [] => item.isRepeated && matchItems toEnd fuel items []
    | b :: rest =>
      if item.isRepeated then
        matchItems toEnd fuel items line
          || (item.atom.matches b && matchItems toEnd fuel (item :: items) rest)
      else item.atom.matches b && matchItems toEnd fuel items rest

/-- Whether a pattern begins a text that a line ends with. -/
def LinePattern.isAt (p : LinePattern) (rest : List UInt8) : Bool :=
  matchItems p.toEnd (p.items.length + rest.length + 1) p.items rest

/-- Whether a pattern is found in a line. -/
def LinePattern.isIn (p : LinePattern) (line : List UInt8) : Bool :=
  if p.fromStart then p.isAt line
  else (List.range (line.length + 1)).any fun n => p.isAt (line.drop n)

def lowerByte (b : UInt8) : UInt8 := if 65 ≤ b && b ≤ 90 then b + 32 else b

/-- The lines that are chosen, with the name of their file and their number as flags ask for. -/
def shownLines (flags : List Char) (name : List UInt8) (chosen : List UInt8 → Bool)
    (lines : List (List UInt8)) : List (List UInt8) :=
  (lines.mapIdx fun i line => (i, line)).filterMap fun (i, line) =>
    let number := if flags.contains 'n' then s!"{i + 1}:".toUTF8.toList else []
    if chosen line then some (name ++ number ++ line) else none

/-- The exit code says whether a line was found. -/
def grep : Tool := fun args s =>
  match splitFlags args with
  | (_, []) => s.complain 2 "Usage: grep [OPTION]... PATTERNS [FILE]..."
  | (flags, text :: paths) =>
    let ignoresCase := flags.contains 'i'
    let text := if ignoresCase then text.toLower else text
    let pattern := if flags.contains 'F' then LinePattern.ofPlain text else LinePattern.ofText text
    let chosen (line : List UInt8) : Bool :=
      pattern.isIn (if ignoresCase then line.map lowerByte else line) != flags.contains 'v'
    let paths := if paths.isEmpty then ["-"] else paths
    let (found, failed, s) := paths.foldl (fun (found, failed, (s : Shell)) path =>
      match readSource 0 path s with
      | (.error fault, s) => (found, true, s.complain 2 (about "grep" path fault))
      | (.ok bytes, s) =>
        let name := if paths.length < 2 then "" else path ++ ":"
        let lines := shownLines flags name.toUTF8.toList chosen (linesOf bytes)
        let shown := if flags.contains 'q' then ByteArray.empty
          else if flags.contains 'c' then (name ++ s!"{lines.length}\n").toUTF8
          else ofLines lines
        (found || !lines.isEmpty, failed, s.writeTo 1 shown)) (false, false, s)
    s.exit (if failed then 2 else if found then 0 else 1)

end SessionReplay.Shell
