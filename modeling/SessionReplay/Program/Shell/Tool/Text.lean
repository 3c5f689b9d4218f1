import SessionReplay.Program.Shell.Printf
import SessionReplay.Program.Shell.Tool.Basic

/-!
# Tools for text

Part of what stands in for the programs of a host; no result rests on it.

Programs that write text, or change the text that they read.
-/

namespace SessionReplay.Shell

def echo : Tool := fun args s =>
  let (args, newline) := match args with
    | "-n" :: rest => (rest, false)
    | _ => (args, true)
  let (bytes, ended) := expandText (String.intercalate " " args)
  s.write ⟨(bytes ++ if newline && !ended then [10] else []).toArray⟩

/-- The program of this name, unlike the command of the shell, leaves escapes as they are unless it
is asked for them. -/
def plainEcho : Tool := fun args s =>
  let isOption (a : String) : Bool := isFlag a && (a.toList.drop 1).all "neE".toList.contains
  let flags := (args.takeWhile isOption).flatMap fun a => a.toList.drop 1
  let text := String.intercalate " " (args.dropWhile isOption)
  let expands := (flags.reverse.find? fun c => c == 'e' || c == 'E') == some 'e'
  let (bytes, ended) := if expands then expandText text else (text.toUTF8.toList, false)
  s.write ⟨(bytes ++ if flags.contains 'n' || ended then [] else [10]).toArray⟩

/-- Prints arguments as a format says. -/
def printTool : Tool := fun args s =>
  match (if args.head? = some "--" then args.tail else args) with
  | [] => s.complain 2 "printf: usage: printf format [arg ...]"
  | format :: args =>
    let (bytes, status) := printf format args
    (s.write bytes).exit status

/-- The program of this name has one exit code for all faults. -/
def plainPrint : Tool := fun args s =>
  let after := printTool args s
  after.exit (min after.status 1)

/-- Numbers from a first one to a last one, in steps. -/
def seq : Tool := fun args s =>
  let (low, step, high) := match args.filterMap String.toNat? with
    | [high] => (1, 1, high)
    | [low, high] => (low, 1, high)
    | [low, step, high] => (low, step, high)
    | _ => (1, 1, 0)
  let count := if step = 0 ∨ high < low then 0 else (high - low) / step + 1
  s.writeText (String.join ((List.range count).map fun i => s!"{low + step * i}\n"))

/-- How many lines of an endless text are written. -/
def manyLines : Nat := 8192

def yes : Tool := fun args s =>
  let line := (if args.isEmpty then "y" else String.intercalate " " args) ++ "\n"
  (s.writeText (String.join (List.replicate manyLines line))).stop .endless

/-! ## Parts of texts -/

/-- Lines with their numbers in front. -/
def numbered (bytes : ByteArray) : ByteArray :=
  ofLines ((linesOf bytes).mapIdx fun i line => (columns 6 [i + 1] ++ "\t").toUTF8.toList ++ line)

def cat : Tool := fun args s =>
  let (flags, paths) := splitFlags args
  let s :=
    if flags.contains 'n' then
      let (all, s) := readAll 1 (about "cat") paths s
      s.writeTo 1 (numbered (joinBytes all))
    else eachFile paths 65536 (about "cat") (fun _ bytes s => s.writeTo 1 bytes) s
  if paths.contains "/dev/zero" then s.stop .endless else s

/-- The first lines of bytes. -/
def firstLines (n : Nat) (bytes : ByteArray) : ByteArray :=
  let rec go : Nat → List UInt8 → List UInt8 → List UInt8
    | _, done, [] => done.reverse
    | 0, done, _ => done.reverse
    | n + 1, done, b :: rest => go (if b = 10 then n else n + 1) (b :: done) rest
  ⟨(go n [] bytes.toList).toArray⟩

def lastBytes (n : Nat) (bytes : ByteArray) : ByteArray := bytes.extract (bytes.size - n) bytes.size

def lastLines (n : Nat) (bytes : ByteArray) : ByteArray :=
  let lines := linesOf bytes
  let chosen := lines.drop (lines.length - n)
  let ended := bytes.toList.getLast? == some 10
  if ended then ofLines chosen else ⟨(ofLines chosen).data.pop⟩

/-- How much of a text is wanted: a number of lines or bytes. -/
inductive Amount where
  | lines (n : Nat)
  | bytes (n : Nat)

/-- The amount in arguments such as `-n 3`, `-n3` and `-3`, and the operands. -/
def amountOf : List String → Amount × List String
  | "-n" :: n :: rest => (.lines (n.toNat?.getD 0), rest)
  | "-c" :: n :: rest => (.bytes (n.toNat?.getD 0), rest)
  | first :: rest =>
    match first.toList with
    | '-' :: 'n' :: ds => (.lines ((String.ofList ds).toNat?.getD 0), rest)
    | '-' :: 'c' :: ds => (.bytes ((String.ofList ds).toNat?.getD 0), rest)
    | '-' :: ds =>
      match (String.ofList ds).toNat? with
      | some n => (.lines n, rest)
      | none => (.lines 10, first :: rest)
    | _ => (.lines 10, first :: rest)
  | [] => (.lines 10, [])

/-- Writes a part of every file, with a headline if there are several. -/
def partTool (tool : String) (fewer : Amount → ByteArray → ByteArray) : Tool := fun args s =>
  let (amount, paths) := amountOf args
  let wanted := match amount with
    | .bytes n => n
    | .lines _ => 65536
  let complaint (path : String) (fault : Storage.Fault) : String :=
    tool ++ ": cannot open " ++ quotedPath path ++ " for reading: " ++ fault.reason
  eachFile paths wanted complaint (fun path bytes s =>
    let gap := if paths.head? = some path then "" else "\n"
    let headline := gap ++ "==> " ++ path ++ " <==\n"
    let s := if paths.length < 2 then s else s.writeTo 1 headline.toUTF8
    s.writeTo 1 (fewer amount bytes)) s

def head : Tool := partTool "head" fun
  | .lines n => firstLines n
  | .bytes n => fun b => b.extract 0 n

def tail : Tool := partTool "tail" fun
  | .lines n => lastLines n
  | .bytes n => lastBytes n

def count (p : UInt8 → Bool) (bytes : ByteArray) : Nat := (bytes.toList.filter p).length

def isBlankByte (b : UInt8) : Bool := b = 32 || (9 ≤ b && b ≤ 13)

/-- The number of longest parts without blanks. -/
def countWords (bytes : ByteArray) : Nat :=
  (bytes.toList.foldl (fun (n, inWord) b =>
    if isBlankByte b then (n, false) else (if inWord then n else n + 1, true)) (0, false)).1

/-- The counts of each file and their sums, as wide as the largest sum of bytes where there are
several. -/
def wc : Tool := fun args s =>
  let (flags, paths) := splitFlags args
  let shows (c : Char) : Bool := flags.isEmpty || flags.contains c
  let counts (b : ByteArray) : List Nat :=
    (if shows 'l' then [count (· == 10) b] else []) ++ (if shows 'w' then [countWords b] else [])
      ++ if shows 'c' || flags.contains 'm' then [b.size] else []
  let sizes := paths.map fun path => ((s.disk.read path).toOption.map ByteArray.size).getD 0
  let width := if paths.isEmpty then 7 else (toString (sizes.foldl (· + ·) 0)).length
  let width := if paths.length < 2 && (counts s.input).length < 2 then 1 else width
  let line (numbers : List Nat) (name : String) : ByteArray :=
    (columns width numbers ++ (if name.isEmpty then "" else " " ++ name) ++ "\n").toUTF8
  let after := eachFile paths 0 (about "wc") (fun path bytes s =>
    s.writeTo 1 (line (counts bytes) (if paths.isEmpty then "" else path))) s
  if paths.length < 2 then after
  else
    let all := joinBytes (readAll 1 (about "wc") paths s).1
    after.writeTo 1 (line (counts all) "total")

/-! ## Characters -/

/-- The characters of a set as bytes; ranges are written with a hyphen. -/
def setBytes : Nat → List Char → List UInt8
  | 0, _ => []
  | _ + 1, [] => []
  | fuel + 1, '\\' :: rest =>
    let (bytes, rest) := unescape false rest
    bytes ++ setBytes fuel rest
  | fuel + 1, a :: '-' :: b :: rest =>
    (List.range (b.toNat + 1 - a.toNat)).map (fun i => (a.toNat + i).toUInt8) ++ setBytes fuel rest
  | fuel + 1, c :: rest => charBytes c ++ setBytes fuel rest

/-- Classes of characters that have a name, as ranges. -/
def namedSets : List (String × String) :=
  [("[:lower:]", "a-z"), ("[:upper:]", "A-Z"), ("[:digit:]", "0-9"), ("[:alpha:]", "A-Za-z"),
   ("[:alnum:]", "0-9A-Za-z"), ("[:space:]", "\\t\\n\\v\\f\\r ")]

def byteSet (s : String) : List UInt8 :=
  let s := ((namedSets.find? (·.1 == s)).map (·.2)).getD s
  setBytes (s.toList.length + 1) s.toList

def substitute (old new : List UInt8) (b : UInt8) : UInt8 :=
  match old.idxOf? b with
  | none => b
  | some i => (new[i]? <|> new.getLast?).getD b

/-- Keeps one of equal bytes of a set that follow each other. -/
def squeeze (set : List UInt8) : List UInt8 → List UInt8
  | a :: b :: rest =>
    if a = b && set.contains a then squeeze set (b :: rest) else a :: squeeze set (b :: rest)
  | bytes => bytes

def tr : Tool := fun args s =>
  let bytes := s.input.toList
  let changed : Option (List UInt8) := match args with
    | ["-d", set] => some (bytes.filter fun b => !(byteSet set).contains b)
    | ["-dc", set] | ["-cd", set] => some (bytes.filter (byteSet set).contains)
    | ["-s", set] => some (squeeze (byteSet set) bytes)
    | [old, new] => some (bytes.map (substitute (byteSet old) (byteSet new)))
    | _ => none
  let s := { s with input := ByteArray.empty }
  match changed with
  | some bytes => s.write ⟨bytes.toArray⟩
  | none => s.complain 1 "tr: missing operand"

/-! ## Lines -/

def bytesLe : List UInt8 → List UInt8 → Bool
  | [], _ => true
  | _ :: _, [] => false
  | a :: as, b :: bs => a < b || (a == b && bytesLe as bs)

/-- The number in front of a line. -/
def lineNumber (line : List UInt8) : Nat :=
  (line.takeWhile fun b => 48 ≤ b && b ≤ 57).foldl (fun n b => 10 * n + (b.toNat - 48)) 0

def withoutRepeats : List (List UInt8) → List (List UInt8)
  | a :: b :: rest => if a = b then withoutRepeats (b :: rest) else a :: withoutRepeats (b :: rest)
  | lines => lines

def sortLines : Tool := fun args s =>
  let (flags, paths) := splitFlags args
  let le (a b : List UInt8) : Bool :=
    if flags.contains 'n' && lineNumber a != lineNumber b then lineNumber a < lineNumber b
    else bytesLe a b
  let (all, s) := readAll 2 (about "sort") paths s
  let sorted := (all.flatMap linesOf).mergeSort le
  let sorted := if flags.contains 'r' then sorted.reverse else sorted
  s.writeTo 1 (ofLines (if flags.contains 'u' then withoutRepeats sorted else sorted))

/-- One of equal lines that follow each other, perhaps with their number. -/
def uniq : Tool := fun args s =>
  let (flags, paths) := splitFlags args
  let (all, s) := readAll 1 (about "uniq") paths s
  let runs := (all.flatMap linesOf).splitBy (· == ·)
  s.writeTo 1 (ofLines (runs.filterMap fun run =>
    run.head?.map fun line =>
      if flags.contains 'c' then (columns 7 [run.length] ++ " ").toUTF8.toList ++ line else line))

/-- The parts of a line between separators. -/
def splitLine (separator : UInt8) : List UInt8 → List (List UInt8)
  | [] => [[]]
  | b :: rest =>
    match splitLine separator rest with
    | [] => [[b]]
    | piece :: more => if b = separator then [] :: piece :: more else (b :: piece) :: more

/-- The value of an option that is written together with it or behind it. -/
def optionValue? (letter : Char) : List String → Option String
  | [] => none
  | a :: rest =>
    match a.toList with
    | '-' :: c :: value =>
      if c = letter then if value.isEmpty then rest.head? else some (String.ofList value)
      else optionValue? letter rest
    | _ => optionValue? letter rest

/-- The ranges of a list such as `1,3-5,7-`; one without an end has none. -/
def rangesOf (text : String) : List (Nat × Option Nat) :=
  (text.splitOn ",").map fun range =>
    match (range.splitOn "-").map String.toNat? with
    | [low] => (low.getD 1, low)
    | [low, high] => (low.getD 1, high)
    | _ => (1, some 0)

/-- The members of a list whose numbers, which begin at one, are in a range. -/
def chosen {α : Type} (ranges : List (Nat × Option Nat)) (l : List α) : List α :=
  (l.mapIdx fun i a => (i + 1, a)).filterMap fun (n, a) =>
    if ranges.any fun r => r.1 ≤ n && r.2.all (n ≤ ·) then some a else none

/-- The operands behind options, some of which come with a value. -/
def operandsBehind (valued : List Char) (args : List String) : List String :=
  (args.foldl (fun (found, isValue) a =>
    match isValue, a.toList with
    | true, _ => (found, false)
    | false, ['-', c] => (found, valued.contains c)
    | false, '-' :: _ :: _ => (found, false)
    | false, _ => (found ++ [a], false)) ([], false)).1

/-- Writes some fields or bytes of every line. -/
def cut : Tool := fun args s =>
  let separator := (((optionValue? 'd' args).getD "\t").toUTF8.toList.head?).getD 9
  let cutLine (line : List UInt8) : List UInt8 :=
    match optionValue? 'f' args, optionValue? 'c' args <|> optionValue? 'b' args with
    | some list, _ =>
      let pieces := splitLine separator line
      if pieces.length = 1 then line
      else List.intercalate [separator] (chosen (rangesOf list) pieces)
    | none, some list => chosen (rangesOf list) line
    | none, none => line
  let (all, s) := readAll 1 (about "cut") (operandsBehind ['d', 'f', 'c', 'b'] args) s
  s.writeTo 1 (ofLines ((all.flatMap linesOf).map cutLine))

/-- Writes the input to the output and to files. -/
def tee : Tool := fun args s =>
  let (flags, paths) := splitFlags args
  let bytes := s.input
  let s := { s with input := ByteArray.empty }.write bytes
  paths.foldl (fun s path =>
    match (if flags.contains 'a' then s.disk.append path bytes else s.disk.write path bytes) with
    | .ok d => { s with disk := d }
    | .error fault => s.complain 1 (about "tee" path fault)) s

end SessionReplay.Shell
