/-!
# Failures with their causes

* `Trouble`: what failed and why, from the outside in.
* `Trouble.within`: a failure seen from one level further out.
* `Trouble.line`: all of it in one line; `Trouble.report`: with the causes listed below.
-/

namespace SessionReplay

structure Trouble where
  text : String
  causes : List String := []
  deriving DecidableEq, Repr

namespace Trouble

def chain (t : Trouble) : List String := t.text :: t.causes

def within (text : String) (t : Trouble) : Trouble := ⟨text, t.chain⟩

def line (t : Trouble) : String := String.intercalate ": " t.chain

/-- The causes, numbered if there are several. -/
def causeLines (t : Trouble) : List String :=
  match t.causes with
  | [cause] => ["    " ++ cause]
  | causes => causes.mapIdx fun i cause => s!"    {i}: " ++ cause

def report (t : Trouble) : String :=
  if t.causes.isEmpty then t.text
  else String.intercalate "\n" (t.text :: "" :: "Caused by:" :: t.causeLines)

end Trouble
end SessionReplay
