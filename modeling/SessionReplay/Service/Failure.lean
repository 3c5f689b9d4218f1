import SessionReplay.Storage.Fault
import SessionReplay.Trouble

/-!
# What can go wrong with a service

* `ServiceFailure`: the reasons for which a service was of no use.
* `ServiceFailure.message`, `ServiceFailure.trouble`: the text, and the text with its causes.
* `ServiceFailure.isClientError`, `isServerError`: whose fault a refusal is.
-/

namespace SessionReplay

/-- Why a request had no answer. -/
inductive Unanswered where
  /-- The address is none, or a header holds what may not stand in one. -/
  | notSent (reason : String)
  /-- There is no way to the server at this address. -/
  | unreachable (url : String)
  deriving DecidableEq, Repr

namespace Unanswered

def message : Unanswered → String
  | notSent _ => "builder error"
  | unreachable url => "error sending request for url (" ++ url ++ ")"

def causes : Unanswered → List String
  | notSent reason => [reason]
  | unreachable _ =>
    ["client error (Connect)", "tcp connect error", "Network is unreachable (os error 101)"]

end Unanswered

inductive ServiceFailure where
  | unanswered (reason : Unanswered)
  | refused (status : Nat) (body : String)
  | unreadable (reason : String)
  /-- Settings that are not there. -/
  | unset (names : List String)
  | storage (path : String) (fault : Storage.Fault)
  deriving DecidableEq, Repr

namespace ServiceFailure

def message : ServiceFailure → String
  | unanswered reason => "HTTP request failed: " ++ reason.message
  | refused status body => s!"API error (status {status}): " ++ body
  | unreadable reason => "Failed to parse response: " ++ reason
  | unset names => "Missing configuration: " ++ String.intercalate ", " names
  | storage path fault => "I/O error on " ++ path ++ ": " ++ fault.message

def trouble (f : ServiceFailure) : Trouble :=
  match f with
  | unanswered reason => ⟨f.message, reason.message :: reason.causes⟩
  | storage _ fault => ⟨f.message, [fault.message]⟩
  | _ => ⟨f.message, []⟩

def isClientError : ServiceFailure → Bool
  | refused status _ => 400 ≤ status && status < 500
  | _ => false

def isServerError : ServiceFailure → Bool
  | refused status _ => 500 ≤ status
  | _ => false

end ServiceFailure
end SessionReplay
