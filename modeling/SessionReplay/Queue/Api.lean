import SessionReplay.Job.Submission
import SessionReplay.Net.MediaType
import SessionReplay.Queue.System

/-!
# The queue over the network

Requests to the queue: whether it is up, a new job, and its status.

* `ApiRequest`, `ApiResponse`, `Endpoint`.
* `ApiRequest.submission`: the submission that the body of a request is.
* `readSubmission`: the submission in a request, or what is wrong with it; bodies have a largest
  size.
* `System.respond`: the answer to a request and the system behind it.
-/

namespace SessionReplay

structure ApiRequest where
  method : String
  /-- The path, perhaps with a query. -/
  target : String
  contentType : Option String
  body : String
  deriving DecidableEq, Repr

structure ApiResponse where
  status : Nat
  body : Option Json

namespace ApiResponse

def ok (body : Json) : ApiResponse := ⟨200, some body⟩

def badRequest (reason : String) : ApiResponse := ⟨400, some (.object [("error", .string reason)])⟩

def notFound : ApiResponse := ⟨404, none⟩

def methodNotAllowed : ApiResponse := ⟨405, none⟩

def withoutBody (r : ApiResponse) : ApiResponse := { r with body := none }

end ApiResponse

/-! ## Endpoints -/

inductive Endpoint where
  | health
  | submit
  | status
  deriving DecidableEq, Repr

namespace Endpoint

def ofPath? (path : String) : Option Endpoint :=
  if path = "/health" then some health
  else if path = "/api/run-test" then some submit
  else if path = "/api/queue-status" then some status
  else none

end Endpoint

/-- The target of a request without its query. -/
def ApiRequest.path (r : ApiRequest) : String :=
  String.ofList (r.target.toList.takeWhile fun c => c != '?' && c != '#')

/-! ## Submissions -/

def notJsonMessage : String := "Expected request with `Content-Type: application/json`"

/-- What is said about a body that cannot be read, with the path to the place of the fault. -/
def bodyMessage (f : Json.Fault) : String :=
  let heading :=
    if f.isGrammar then "Failed to parse the request body as JSON: "
    else "Failed to deserialize the JSON body into the target type: "
  match f.pathText? with
  | none => heading ++ f.message
  | some path => heading ++ path ++ ": " ++ f.message

/-- Only visible characters of ASCII, blanks and tabs are looked at in a header. -/
def isPlainHeader (s : String) : Bool :=
  s.toList.all fun c => c == '\t' || (0x20 ≤ c.toNat && c.toNat < 0x7f)

def ApiRequest.hasJson (r : ApiRequest) : Bool :=
  match (r.contentType.filter isPlainHeader).bind Net.MediaType.ofText? with
  | some m => m.isJson
  | none => false

/-- The largest size of a body, in bytes. -/
def maxBody : Nat := 2097152

def tooLongMessage : String := "Failed to buffer the request body: length limit exceeded"

def ApiRequest.isTooLong (r : ApiRequest) : Bool := maxBody < r.body.utf8ByteSize

/-- The submission that a body is, whatever its size. -/
def ApiRequest.submission (r : ApiRequest) : Except String Submission :=
  (Json.decodeText Submission.decode r.body).mapError bodyMessage

def readSubmission (r : ApiRequest) : Except String Submission :=
  if !r.hasJson then .error notJsonMessage
  else if r.isTooLong then .error tooLongMessage
  else r.submission

def acceptedMessage (testName : String) : String :=
  "Received " ++ testName ++ ". Queued for execution."

namespace System

/-- Queues the job of a submission, which gets the identifier and the time that are given. -/
def respondToSubmission (s : System) (id : Identifier) (now : Instant) (r : ApiRequest) :
    ApiResponse × System :=
  match readSubmission r with
  | .error reason => (.badRequest reason, s)
  | .ok submission =>
    match submission.toJob? id now with
    | none => (.badRequest Submission.missingParts, s)
    | some job =>
      let accepted : Accepted := ⟨acceptedMessage job.testName, s.queue.position.toUInt64⟩
      (.ok accepted.toJson, s.submit job)

/-- The answer to a request to look at something. -/
def respondToLook (s : System) (method : String) (body : Json) : ApiResponse × System :=
  if method = "GET" then (.ok body, s)
  else if method = "HEAD" then ((ApiResponse.ok body).withoutBody, s)
  else (.methodNotAllowed, s)

def respond (s : System) (id : Identifier) (now : Instant) (r : ApiRequest) :
    ApiResponse × System :=
  match Endpoint.ofPath? r.path with
  | none => (.notFound, s)
  | some .health => s.respondToLook r.method Health.up.toJson
  | some .status => s.respondToLook r.method s.queue.status.toJson
  | some .submit =>
    if r.method = "POST" then s.respondToSubmission id now r else (.methodNotAllowed, s)

end System
end SessionReplay
