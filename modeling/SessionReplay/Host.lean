import SessionReplay.Net.Message
import SessionReplay.Service.Failure
import SessionReplay.Storage.Disk
import SessionReplay.Time.Instant

/-!
# The host

The machine that conversions and pipelines run on: its disk, its clock and its network. Programs
that are started on it are described by `SessionReplay.Programs`.

* `Host`: the disk, the readings of the clock, and the requests that were sent.
* `Host.now`: one look at the clock.
* `Host.send`: one request and its answer.
-/

namespace SessionReplay

open Net

structure Host where
  disk : Disk
  /-- What the clock shows at its first, second and every later reading. -/
  clock : Nat → Instant
  /-- How often the clock was read. -/
  readings : Nat := 0
  network : Network := Network.unreachable
  /-- The requests that reached a server, in order. -/
  sent : List Request := []

namespace Host

def now (h : Host) : Instant × Host := (h.clock h.readings, { h with readings := h.readings + 1 })

/-- What happens to a failing operation on the disk: the host keeps the old one. -/
def onDisk {ε : Type} (h : Host) (result : Except ε Disk) : Except ε Unit × Host :=
  match result with
  | .ok disk => (.ok (), { h with disk := disk })
  | .error fault => (.error fault, h)

/-- Whether all headers of a request can be sent. -/
def canSend (r : Request) : Bool := r.authorization.all isHeaderText

def send (h : Host) (r : Request) : Except ServiceFailure Response × Host :=
  if !canSend r then (.error (.unanswered (.notSent "failed to parse header value")), h)
  else
    match h.network h.sent r with
    | none => (.error (.unanswered (.unreachable r.url.text)), h)
    | some answer => (.ok answer, { h with sent := h.sent ++ [r] })

/-- Sends a request to an address that is given as text. -/
def sendTo (h : Host) (address : String) (request : Url → Request) :
    Except ServiceFailure Response × Host :=
  match Url.ofText? address with
  | none => (.error (.unanswered (.notSent "relative URL without a base")), h)
  | some url => h.send (request url)

/-- An answer that is not a success is a failure. -/
def accepted (result : Except ServiceFailure Response × Host) :
    Except ServiceFailure Response × Host :=
  match result with
  | (.ok answer, h) =>
    if answer.isSuccess then (.ok answer, h)
    else (.error (.refused answer.status answer.text), h)
  | failed => failed

end Host
end SessionReplay
