import SessionReplay.Json.Node

/-!
# The words of a document

Numbers, texts and the three names of JSON, read from the characters that are left of a document.
Each has a reader for its value and one that only finds its end.

* `Cursor`: the characters that are left and the place where they begin.
* `readName`: `null`, `true` and `false`.
* `readNumber`, `skipNumber`.
* `readString`, `skipString`: the inside of a text, behind its opening quote.
-/

namespace SessionReplay.Json

namespace Place

/-- The place behind a character of which `bytes` bytes are taken. -/
def step (p : Place) (c : Char) (bytes : Nat) : Place :=
  if c = '\n' then ⟨p.line + 1, 0⟩ else ⟨p.line, p.column + bytes⟩

def behind (p : Place) (cs : List Char) : Place := cs.foldl (fun p c => p.step c c.utf8Size) p

/-- The place behind the next `n` bytes, if there are so many. -/
def behindBytes : Nat → Place → List Char → Option Place
  | 0, p, _ => some p
  | _, _, [] => none
  | n + 1, p, c :: rest =>
    let taken := min (n + 1) c.utf8Size
    behindBytes (n + 1 - taken) (p.step c taken) rest

end Place

structure Cursor where
  rest : List Char
  place : Place

namespace Cursor

/-- The place behind the next byte, which is the end of the text where there is none. -/
def peekPlace (c : Cursor) : Place :=
  match c.rest with
  | [] => c.place
  | x :: _ => c.place.step x 1

/-- A fault noticed at the next byte, before it is taken. -/
def peekFault (c : Cursor) (g : Grammar) : Fault := .grammar g (some c.peekPlace)

/-- A fault noticed behind what was taken. -/
def fault (c : Cursor) (g : Grammar) : Fault := .grammar g (some c.place)

/-- Behind a character of one byte. -/
def next (c : Cursor) : Cursor :=
  match c.rest with
  | [] => c
  | x :: rest => ⟨rest, c.place.step x 1⟩

def isSpace (c : Char) : Bool := c == ' ' || c == '\n' || c == '\t' || c == '\r'

/-- Behind the white space of JSON. -/
def skipSpace (c : Cursor) : Cursor :=
  ⟨c.rest.dropWhile isSpace, c.place.behind (c.rest.takeWhile isSpace)⟩

/-- The digits at the cursor and what is behind them. -/
def digits (c : Cursor) : List Char × Cursor :=
  let ds := c.rest.takeWhile Char.isDigit
  (ds, ⟨c.rest.dropWhile Char.isDigit, ⟨c.place.line, c.place.column + ds.length⟩⟩)

end Cursor

/-! ## Names -/

/-- The letters of a name that have to follow. -/
def readName : List Char → Cursor → Except Fault Cursor
  | [], c => .ok c
  | x :: more, c =>
    match c.rest with
    | [] => .error (c.fault .endInValue)
    | y :: _ => if y = x then readName more c.next else .error (c.next.fault .expectedIdent)

/-! ## Numbers -/

/-- The digits before a fraction: one zero, or digits that do not begin with zero. The fault where
the text ends is `atEnd`. -/
def wholeDigits (atEnd : Grammar) (c : Cursor) : Except Fault (List Char × Cursor) :=
  match c.rest with
  | [] => .error (c.fault atEnd)
  | '0' :: rest =>
    match rest with
    | d :: _ => if d.isDigit then .error (c.next.peekFault .invalidNumber) else .ok (['0'], c.next)
    | [] => .ok (['0'], c.next)
  | d :: _ => if d.isDigit then .ok c.digits else .error (c.next.fault .invalidNumber)

/-- The digits behind a point, at least one. -/
def fractionDigits (atEnd : Grammar) (c : Cursor) : Except Fault (List Char × Cursor) :=
  match c.rest with
  | '.' :: _ =>
    let c := c.next
    let (ds, after) := c.digits
    if ds.isEmpty then
      .error (c.peekFault (if c.rest.isEmpty then atEnd else .invalidNumber))
    else .ok (ds, after)
  | _ => .ok ([], c)

/-- The sign and digits of an exponent, at least one digit; the last cursor stands at the first of
them. -/
def exponentDigits (atEnd : Grammar) (c : Cursor) :
    Except Fault (Option (Bool × List Char × Cursor) × Cursor) :=
  match c.rest with
  | x :: _ =>
    if x = 'e' ∨ x = 'E' then
      let c := c.next
      let (negative, c) :=
        match c.rest with
        | '+' :: _ => (false, c.next)
        | '-' :: _ => (true, c.next)
        | _ => (false, c)
      match c.rest with
      | [] => .error (c.fault atEnd)
      | d :: _ =>
        if d.isDigit then
          let (ds, after) := c.digits
          .ok (some (negative, ds, c), after)
        else .error (c.next.fault .invalidNumber)
    else .ok (none, c)
  | [] => .ok (none, c)

def digitsValue (ds : List Char) : Nat := ds.foldl (fun n d => 10 * n + (d.toNat - 48)) 0

/-- How many of the digits it takes to get beyond the exponents that are counted. -/
def overflowAt (value taken : Nat) : List Char → Option Nat
  | [] => none
  | d :: rest =>
    let value := 10 * value + (d.toNat - 48)
    if 2147483647 < value then some (taken + 1) else overflowAt value (taken + 1) rest

/-- A number without fraction and exponent. -/
def integerValue (negative : Bool) (n : Nat) : Option Number :=
  let asDouble := (Double.ofDecimal? negative n 0).map Number.real
  if negative then
    if n = 0 then asDouble else (Number.ofInt? (-(n : Int))).or asDouble
  else (Number.ofInt? n).or asDouble

/-- A number, from its first digit on. -/
def readNumber (negative : Bool) (c : Cursor) : Except Fault (Number × Cursor) := do
  let (whole, c) ← wholeDigits .endInValue c
  let (fraction, c) ← fractionDigits .endInValue c
  let (exponent, c) ← exponentDigits .endInValue c
  let n := digitsValue (whole ++ fraction)
  match exponent with
  | none =>
    let value :=
      if fraction.isEmpty then integerValue negative n
      else (Double.ofDecimal? negative n (-(fraction.length : Int))).map .real
    match value with
    | some v => .ok (v, c)
    | none => .error (c.fault .numberOutOfRange)
  | some (below, ds, first) =>
    match overflowAt 0 0 ds with
    | some taken =>
      if n = 0 ∨ below then .ok (.real (.zero negative), c)
      else
        let place : Place := ⟨first.place.line, first.place.column + taken⟩
        .error (.grammar .numberOutOfRange (some place))
    | none =>
      let e : Int := digitsValue ds
      let e := (if below then -e else e) - fraction.length
      match Double.ofDecimal? negative n e with
      | some x => .ok (.real x, c)
      | none => .error (c.fault .numberOutOfRange)

/-- The end of a number, from its first digit on. -/
def skipNumber (c : Cursor) : Except Fault Cursor := do
  let (_, c) ← wholeDigits .invalidNumber c
  let (_, c) ← fractionDigits .invalidNumber c
  let (_, c) ← exponentDigits .invalidNumber c
  .ok c

/-! ## Texts -/

def hexValue? (c : Char) : Option Nat :=
  if c.isDigit then some (c.toNat - 48)
  else if 'a' ≤ c ∧ c ≤ 'f' then some (c.toNat - 87)
  else if 'A' ≤ c ∧ c ≤ 'F' then some (c.toNat - 55)
  else none

def hexValue4? (a b c d : Char) : Option Nat := do
  let a ← hexValue? a
  let b ← hexValue? b
  let c ← hexValue? c
  let d ← hexValue? d
  some (((a * 16 + b) * 16 + c) * 16 + d)

/-- The fault of four bytes that are not hexadecimal digits, or are not there. -/
def hexFault (p : Place) (rest : List Char) : Fault :=
  match Place.behindBytes 4 p rest with
  | some q => .grammar .invalidEscape (some q)
  | none => .grammar .endInString (some (p.behind rest))

/-- The character of an escape of one letter. -/
def shortEscape? : Char → Option Char
  | '"' => some '"'
  | '\\' => some '\\'
  | '/' => some '/'
  | 'b' => some '\x08'
  | 'f' => some '\x0c'
  | 'n' => some '\n'
  | 'r' => some '\r'
  | 't' => some '\t'
  | _ => none

/-- The text up to its closing quote, given the characters before, last one first. -/
def readString (done : List Char) (p : Place) : List Char → Except Fault (String × Cursor)
  | [] => .error (.grammar .endInString (some p))
  | '"' :: rest => .ok (String.ofList done.reverse, ⟨rest, p.step '"' 1⟩)
  | ['\\'] => .error (.grammar .endInString (some (p.step '\\' 1)))
  | '\\' :: 'u' :: a :: b :: c :: d :: rest =>
    let q : Place := ⟨p.line, p.column + 2⟩
    match hexValue4? a b c d with
    | none => .error (hexFault q (a :: b :: c :: d :: rest))
    | some n =>
      let q : Place := ⟨p.line, p.column + 6⟩
      if 0xDC00 ≤ n ∧ n ≤ 0xDFFF then .error (.grammar .loneSurrogate (some q))
      else if 0xD800 ≤ n ∧ n ≤ 0xDBFF then
        match rest with
        | [] => .error (.grammar .endInString (some q))
        | ['\\'] => .error (.grammar .endInString (some ⟨q.line, q.column + 1⟩))
        | '\\' :: 'u' :: e :: f :: g :: h :: rest =>
          match hexValue4? e f g h with
          | none => .error (hexFault ⟨q.line, q.column + 2⟩ (e :: f :: g :: h :: rest))
          | some m =>
            let q : Place := ⟨q.line, q.column + 6⟩
            if 0xDC00 ≤ m ∧ m ≤ 0xDFFF then
              readString (Char.ofNat (0x10000 + (n - 0xD800) * 0x400 + (m - 0xDC00)) :: done) q rest
            else .error (.grammar .loneSurrogate (some q))
        | '\\' :: 'u' :: short => .error (hexFault ⟨q.line, q.column + 2⟩ short)
        | '\\' :: x :: _ =>
          .error (.grammar .halfSurrogatePair (some (Place.step ⟨q.line, q.column + 1⟩ x 1)))
        | x :: _ => .error (.grammar .halfSurrogatePair (some (q.step x 1)))
      else readString (Char.ofNat n :: done) q rest
  | '\\' :: 'u' :: short => .error (hexFault ⟨p.line, p.column + 2⟩ short)
  | '\\' :: x :: rest =>
    match shortEscape? x with
    | some y => readString (y :: done) ⟨p.line, p.column + 2⟩ rest
    | none => .error (.grammar .invalidEscape (some (Place.step ⟨p.line, p.column + 1⟩ x 1)))
  | x :: rest =>
    if x.toNat < 0x20 then .error (.grammar .controlCharacter (some (p.step x 1)))
    else readString (x :: done) (p.step x x.utf8Size) rest

/-- The end of a text. Escapes have to be complete, but surrogates need not be paired. -/
def skipString (p : Place) : List Char → Except Fault Cursor
  | [] => .error (.grammar .endInString (some p))
  | '"' :: rest => .ok ⟨rest, p.step '"' 1⟩
  | ['\\'] => .error (.grammar .endInString (some (p.step '\\' 1)))
  | '\\' :: 'u' :: a :: b :: c :: d :: rest =>
    match hexValue4? a b c d with
    | none => .error (hexFault ⟨p.line, p.column + 2⟩ (a :: b :: c :: d :: rest))
    | some _ => skipString ⟨p.line, p.column + 6⟩ rest
  | '\\' :: 'u' :: short => .error (hexFault ⟨p.line, p.column + 2⟩ short)
  | '\\' :: x :: rest =>
    match shortEscape? x with
    | some _ => skipString ⟨p.line, p.column + 2⟩ rest
    | none => .error (.grammar .invalidEscape (some (Place.step ⟨p.line, p.column + 1⟩ x 1)))
  | x :: rest =>
    if x.toNat < 0x20 then .error (.grammar .controlCharacter (some p))
    else skipString (p.step x x.utf8Size) rest

end SessionReplay.Json
