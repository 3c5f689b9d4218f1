import SessionReplay.Text.Lossy

/-!
# Formatted output of shell scripts

Part of what stands in for the programs of a host; no result rests on it.

* `unescape`: escapes in a format, such as `\n` and `\101`, as bytes.
* `printf`: a format with its arguments, used again as long as arguments are left.
-/

namespace SessionReplay.Shell

def octalValue (cs : List Char) : Nat := cs.foldl (fun n c => 8 * n + (c.toNat - 48)) 0

def isOctal (c : Char) : Bool := '0' ≤ c && c ≤ '7'

def charBytes (c : Char) : List UInt8 := String.utf8EncodeChar c

def textBytes (s : String) : List UInt8 := s.toUTF8.toList

/-- What was written, as a value. Values are texts, so that bytes that are no text are replaced. -/
def valueOf (bytes : ByteArray) : String :=
  (String.fromUTF8? bytes).getD (Text.lossy bytes.toList)

/-- The byte of an escape that is named by a letter. -/
def letterEscape? : Char → Option UInt8
  | 'a' => some 7
  | 'b' => some 8
  | 't' => some 9
  | 'n' => some 10
  | 'v' => some 11
  | 'f' => some 12
  | 'r' => some 13
  | '\\' => some 92
  | '"' => some 34
  | '\'' => some 39
  | _ => none

/-- The bytes of an escape whose backslash was read, and the rest. In an argument, unlike in a
format, a number is marked by a zero. -/
def unescape (inArgument : Bool) (cs : List Char) : List UInt8 × List Char :=
  match cs with
  | [] => ([92], [])
  | c :: rest =>
    match letterEscape? c with
    | some b => ([b], rest)
    | none =>
      if inArgument then
        if c = '0' then
          let digits := (rest.take 3).takeWhile isOctal
          ([(octalValue digits).toUInt8], rest.drop digits.length)
        else ([92], cs)
      else
        let digits := (cs.take 3).takeWhile isOctal
        if digits.isEmpty then ([92], cs)
        else ([(octalValue digits).toUInt8], cs.drop digits.length)

/-- A text with escapes, up to `\c`, and whether that was met. -/
def expandEscapes : Nat → List Char → List UInt8 × Bool
  | 0, _ => ([], false)
  | _ + 1, [] => ([], false)
  | _ + 1, '\\' :: 'c' :: _ => ([], true)
  | fuel + 1, '\\' :: rest =>
    let (bytes, rest) := unescape true rest
    let (more, ended) := expandEscapes fuel rest
    (bytes ++ more, ended)
  | fuel + 1, c :: rest =>
    let (more, ended) := expandEscapes fuel rest
    (charBytes c ++ more, ended)

def expandText (s : String) : List UInt8 × Bool := expandEscapes (s.toList.length + 1) s.toList

/-! ## Numbers -/

def digitValue (c : Char) : Nat :=
  if c.isDigit then c.toNat - 48 else c.toLower.toNat - 87

/-- The number at the front of a text: decimal, hexadecimal or octal. -/
def readNumber (cs : List Char) : Nat × List Char :=
  let digits (base : Nat) (isOne : Char → Bool) (cs : List Char) : Nat × List Char :=
    let ds := cs.takeWhile isOne
    (ds.foldl (fun n d => base * n + digitValue d) 0, cs.drop ds.length)
  let isHex (c : Char) : Bool := c.isDigit || ('a' ≤ c.toLower && c.toLower ≤ 'f')
  match cs with
  | '0' :: 'x' :: rest => digits 16 isHex rest
  | '0' :: rest => digits 8 isOctal rest
  | _ => digits 10 Char.isDigit cs

/-! ## Formats -/

/-- A directive of a format: flags, width and precision, and the letter. -/
structure Directive where
  flags : List Char
  width : Nat
  precision : Option Nat
  letter : Char

def decimalValue (cs : List Char) : Nat := cs.foldl (fun n c => 10 * n + (c.toNat - 48)) 0

def readDirective (cs : List Char) : Option (Directive × List Char) :=
  let flags := cs.takeWhile "-+ 0#".toList.contains
  let cs := cs.drop flags.length
  let width := cs.takeWhile Char.isDigit
  let cs := cs.drop width.length
  let (precision, cs) := match cs with
    | '.' :: rest =>
      let digits := rest.takeWhile Char.isDigit
      (some (decimalValue digits), rest.drop digits.length)
    | _ => (none, cs)
  match cs with
  | letter :: rest => some (⟨flags, decimalValue width, precision, letter⟩, rest)
  | [] => none

def pad (d : Directive) (fill : UInt8) (bytes : List UInt8) : List UInt8 :=
  let padding := List.replicate (d.width - bytes.length) fill
  if d.flags.contains '-' then bytes ++ padding.map fun _ => 32 else padding ++ bytes

/-- The integer in front of a text, and whether the text holds nothing else. -/
def integerIn (s : String) : Int × Bool :=
  let cs := s.toList.dropWhile fun c => c == ' ' || c == '\t'
  match cs with
  | '"' :: c :: _ | '\'' :: c :: _ => (c.toNat, true)
  | '-' :: cs =>
    let (n, rest) := readNumber cs
    (-n, rest.isEmpty)
  | '+' :: cs =>
    let (n, rest) := readNumber cs
    (n, rest.isEmpty)
  | cs =>
    let (n, rest) := readNumber cs
    (n, rest.isEmpty)

def numberText (d : Directive) (s : String) : String :=
  let n := (integerIn s).1
  let digits := match d.letter with
    | 'x' => String.ofList (Nat.toDigits 16 n.natAbs)
    | 'X' => (String.ofList (Nat.toDigits 16 n.natAbs)).toUpper
    | 'o' => String.ofList (Nat.toDigits 8 n.natAbs)
    | _ => toString n.natAbs
  let sign := if n < 0 then "-" else if d.flags.contains '+' then "+" else ""
  sign ++ digits

/-- The bytes of a directive for an argument, and whether the argument is as it should be; none if
there is no such directive. -/
def directiveBytes? (d : Directive) (argument : String) : Option (List UInt8 × Bool) :=
  match d.letter with
  | 's' =>
    let bytes := textBytes argument
    some (pad d 32 ((d.precision.map bytes.take).getD bytes), true)
  | 'b' => some (pad d 32 (expandText argument).1, true)
  | 'c' => some (pad d 32 ((textBytes argument).take 1), true)
  | 'd' | 'i' | 'u' | 'o' | 'x' | 'X' =>
    let fill := if d.flags.contains '0' && !d.flags.contains '-' then 48 else 32
    some (pad d fill (textBytes (numberText d argument)), (integerIn argument).2)
  | _ => none

/-- What has been printed: the bytes, the arguments that are left, the exit code, and whether the
rest of the format does not count. -/
structure Printed where
  bytes : List UInt8 := []
  args : List String
  status : Nat := 0
  isEnded : Bool := false

def Printed.behind (bytes : List UInt8) (status : Nat) (p : Printed) : Printed :=
  { p with bytes := bytes ++ p.bytes, status := max status p.status }

/-- One pass over a format. -/
def formatOnce : Nat → List Char → List String → Printed
  | 0, _, args => { args := args }
  | _ + 1, [], args => { args := args }
  | _ + 1, '\\' :: 'c' :: _, args => { args := args, isEnded := true }
  | fuel + 1, '\\' :: rest, args =>
    let (bytes, rest) := unescape false rest
    (formatOnce fuel rest args).behind bytes 0
  | fuel + 1, '%' :: '%' :: rest, args => (formatOnce fuel rest args).behind [37] 0
  | fuel + 1, '%' :: rest, args =>
    match readDirective rest with
    | none => { args := args, status := 2, isEnded := true }
    | some (d, rest) =>
      match directiveBytes? d (args.head?.getD "") with
      | none => { args := args, status := 2, isEnded := true }
      | some (bytes, isRight) =>
        (formatOnce fuel rest args.tail).behind bytes (if isRight then 0 else 1)
  | fuel + 1, c :: rest, args => (formatOnce fuel rest args).behind (charBytes c) 0

def formatAll (format : List Char) : Nat → List String → Printed
  | 0, args => { args := args }
  | fuel + 1, args =>
    let p := formatOnce (format.length + 1) format args
    if p.isEnded || p.args.isEmpty || p.args.length = args.length then p
    else (formatAll format fuel p.args).behind p.bytes p.status

/-- What is printed, and the exit code. -/
def printf (format : String) (args : List String) : ByteArray × Nat :=
  let p := formatAll format.toList (args.length + 1) args
  (⟨p.bytes.toArray⟩, p.status)

end SessionReplay.Shell
