import SessionReplay.Host
import SessionReplay.Job.Submission
import SessionReplay.Queue.Status

/-!
# A queue on a server

The queue of a server that is reached over the network.

* `RemoteQueue`: its address.
* `RemoteQueue.health`, `status`, `submit`.
-/

namespace SessionReplay

open Net Json

structure RemoteQueue where
  baseUrl : String
  deriving DecidableEq, Repr

namespace RemoteQueue

/-- The queue at an address, whose slashes at the end do not count. -/
def ofAddress (address : String) : RemoteQueue := ⟨baseAddress address⟩

/-- The document in an answer. -/
def readAnswer {α : Type} (read : Node → Except Fault α) (answer : Response) :
    Except ServiceFailure α :=
  match Json.decodeText read answer.body with
  | .ok a => .ok a
  | .error _ =>
    .error (.unreadable "Failed to parse JSON response: error decoding response body")

def call {α : Type} (q : RemoteQueue) (path : String) (request : Url → Request)
    (read : Node → Except Fault α) (h : Host) : Except ServiceFailure α × Host :=
  let (result, h) := Host.accepted (h.sendTo (q.baseUrl ++ path) request)
  (result.bind (readAnswer read), h)

def health (q : RemoteQueue) : Host → Except ServiceFailure Health × Host :=
  q.call "/health" (fun url => { method := .get, url }) Health.decode

def status (q : RemoteQueue) : Host → Except ServiceFailure QueueStatus × Host :=
  q.call "/api/queue-status" (fun url => { method := .get, url }) QueueStatus.decode

def submit (q : RemoteQueue) (s : Submission) : Host → Except ServiceFailure Accepted × Host :=
  q.call "/api/run-test" (fun url => { method := .post, url, body := some s.toJson })
    Accepted.decode

end RemoteQueue
end SessionReplay
