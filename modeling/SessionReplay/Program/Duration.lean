/-!
# Durations

* `Duration`: a time span in milliseconds.
* `Duration.text`: in seconds from one second up, else in milliseconds; without zeros at its end.
-/

namespace SessionReplay

structure Duration where
  millis : Nat
  deriving DecidableEq, Repr

namespace Duration

def ofSeconds (n : UInt64) : Duration := ⟨1000 * n.toNat⟩

/-- Thousandths behind a point, without zeros at their end. -/
def fractionText (n : Nat) : String :=
  if n = 0 then ""
  else if n % 100 = 0 then s!".{n / 100}"
  else if n % 10 = 0 then "." ++ (if n < 100 then "0" else "") ++ toString (n / 10)
  else "." ++ (if n < 10 then "00" else if n < 100 then "0" else "") ++ toString n

def text (d : Duration) : String :=
  if d.millis = 0 then "0ns"
  else if d.millis < 1000 then s!"{d.millis}ms"
  else toString (d.millis / 1000) ++ fractionText (d.millis % 1000) ++ "s"

end Duration
end SessionReplay
