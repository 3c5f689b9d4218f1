/-!
# What can go wrong with files

* `Storage.Fault`: the reasons for which the system refuses an operation on a path.
* `Storage.Fault.reason`, `Storage.Fault.message`: their texts, without and with the number that the
  system has for them.
-/

namespace SessionReplay.Storage

inductive Fault where
  | notPermitted
  | notFound
  | alreadyExists
  | notFolder
  | isFolder
  | nameTooLong
  /-- The bytes of a file are no text. -/
  | notText
  /-- A path that holds the character zero names nothing. -/
  | zeroInPath
  /-- A folder that has no parent that could be made for it. -/
  | noRoot
  deriving DecidableEq, Repr

namespace Fault

def reason : Fault → String
  | notPermitted => "Operation not permitted"
  | notFound => "No such file or directory"
  | alreadyExists => "File exists"
  | notFolder => "Not a directory"
  | isFolder => "Is a directory"
  | nameTooLong => "File name too long"
  | notText => "stream did not contain valid UTF-8"
  | zeroInPath => "file name contained an unexpected NUL byte"
  | noRoot => "failed to create whole tree"

/-- The number of a fault that comes from the system. -/
def number? : Fault → Option Nat
  | notPermitted => some 1
  | notFound => some 2
  | alreadyExists => some 17
  | notFolder => some 20
  | isFolder => some 21
  | nameTooLong => some 36
  | notText | zeroInPath | noRoot => none

def message (f : Fault) : String :=
  match f.number? with
  | some n => f.reason ++ s!" (os error {n})"
  | none => f.reason

end Fault
end SessionReplay.Storage
