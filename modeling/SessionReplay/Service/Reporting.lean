import SessionReplay.Host
import SessionReplay.Report.Entry
import SessionReplay.Settings.Basic

/-!
# The reporting system

The service that keeps test results and recordings as entries of forms. It is entered with a
token, which a login gives.

* `Account.login`: the token.
* `Account.postEntry`: a new entry of a form.
* `Account.fetchRecordings`: the entries of the form that holds recordings.
-/

namespace SessionReplay

open Net

namespace Account

def loginAddress (a : Account) : String := a.url ++ "/api/jwt/login"

def entryAddress (a : Account) (form : String) : String := a.url ++ "/api/arsys/v1/entry/" ++ form

def authorization (token : String) : String := "AR-JWT " ++ token

def loginRequest (a : Account) (url : Url) : Request :=
  { method := .post
    url := url.withQuery [("username", a.user), ("password", a.password)] }

def postRequest (token : String) (entry : Json) (url : Url) : Request :=
  { method := .post, url, authorization := some (authorization token), body := some entry }

def fetchRequest (token : String) (url : Url) : Request :=
  { method := .get, url, authorization := some (authorization token) }

/-- The token is all of the answer. -/
def login (a : Account) (h : Host) : Except ServiceFailure String × Host :=
  let (result, h) := Host.accepted (h.sendTo a.loginAddress a.loginRequest)
  (result.map Response.text, h)

def postEntry (a : Account) (token form : String) (entry : Json) (h : Host) :
    Except ServiceFailure Unit × Host :=
  let (result, h) := Host.accepted (h.sendTo (a.entryAddress form) (postRequest token entry))
  (result.map fun _ => (), h)

def readRecordings (answer : Response) : Except ServiceFailure (List (Entry StoredRecording)) :=
  match Json.decodeText StoredRecordings.decode answer.body with
  | .ok r => .ok r.entries
  | .error _ =>
    .error (.unreadable "Failed to parse entries: error decoding response body")

def fetchRecordings (a : Account) (token : String) (h : Host) :
    Except ServiceFailure (List (Entry StoredRecording)) × Host :=
  match a.recordingForm with
  | none => (.error (.unset ["HELIX_RECORDING_FORM"]), h)
  | some form =>
    let (result, h) := Host.accepted (h.sendTo (a.entryAddress form) (fetchRequest token))
    (result.bind readRecordings, h)

end Account
end SessionReplay
