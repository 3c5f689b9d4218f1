import SessionReplay.Json.Print
import SessionReplay.Net.Url

/-!
# Requests and responses

* `Request`, `Response`.
* `Network`: what the servers answer, given the requests that were sent before.
* `Network.unreachable`, `Network.scripted`.
-/

namespace SessionReplay.Net

inductive Method where
  | get
  | post
  deriving DecidableEq, Repr

structure Request where
  method : Method
  url : Url
  authorization : Option String := none
  /-- A document that goes with the request. -/
  body : Option Json := none
  deriving BEq

structure Response where
  status : Nat
  body : String
  deriving DecidableEq, Repr

namespace Response

def isSuccess (r : Response) : Bool := 200 ≤ r.status && r.status < 300

/-- The body as text, without a byte order mark. -/
def text (r : Response) : String :=
  match r.body.toList with
  | '\uFEFF' :: rest => String.ofList rest
  | _ => r.body

end Response

/-- The answer to a request, none where no server can be reached. -/
abbrev Network := List Request → Request → Option Response

namespace Network

def unreachable : Network := fun _ _ => none

/-- The answer of a server that has run out of answers. -/
def outOfAnswers : Response := ⟨599, "unexpected request"⟩

/-- One answer after the other. -/
def scripted (answers : List Response) : Network := fun sent _ =>
  some (answers[sent.length]?.getD outOfAnswers)

end Network

/-- A header may hold anything but control characters; a tab is allowed. -/
def isHeaderText (s : String) : Bool :=
  s.toList.all fun c => c == '\t' || (0x20 ≤ c.toNat && c.toNat != 0x7f)

end SessionReplay.Net
