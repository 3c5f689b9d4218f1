/-!
# Base64

Bytes as text: three bytes become four digits of six bits each. Where one or two bytes are left
over, the last group is filled up with `=`.

* `base64Digit`: the digit of a number below 64.
* `base64`: the text of bytes.
-/

namespace SessionReplay.Text

def base64Digit (n : Nat) : Char :=
  if n < 26 then Char.ofNat (65 + n)
  else if n < 52 then Char.ofNat (71 + n)
  else if n < 62 then Char.ofNat (n - 4)
  else if n = 62 then '+'
  else '/'

/-- The digits of bytes, given those of the bytes before, the last one first. -/
def base64From (done : List Char) : List UInt8 → List Char
  | a :: b :: c :: rest =>
    let n := a.toNat * 65536 + b.toNat * 256 + c.toNat
    base64From
      (base64Digit (n % 64) :: base64Digit (n / 64 % 64) :: base64Digit (n / 4096 % 64)
        :: base64Digit (n / 262144) :: done) rest
  | [a, b] =>
    let n := a.toNat * 256 + b.toNat
    ('=' :: base64Digit (n * 4 % 64) :: base64Digit (n / 16 % 64) :: base64Digit (n / 1024)
      :: done).reverse
  | [a] =>
    ('=' :: '=' :: base64Digit (a.toNat * 16 % 64) :: base64Digit (a.toNat / 4) :: done).reverse
  | [] => done.reverse

def base64Chars (bytes : List UInt8) : List Char := base64From [] bytes

def base64 (bytes : ByteArray) : String := String.ofList (base64Chars bytes.toList)

end SessionReplay.Text
