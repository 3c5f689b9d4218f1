import SessionReplay.Program.Shell.Tool.Basic

/-!
# Redirections

Part of what stands in for the programs of a host; no result rests on it.

* `redirectTo`: a shell one of whose streams comes from or goes to another place, or the reason why
  that cannot be.
-/

namespace SessionReplay.Shell

/-- A path that does not depend on the working folder. -/
def absolutePath (d : Disk) (path : String) : String :=
  Path.join ("/" ++ String.intercalate "/" d.home) path

/-- Where the output to a path goes that is no file. -/
def deviceRoute? (path : String) (s : Shell) : Option Route :=
  match path with
  | "/dev/null" => some .nowhere
  | "/dev/stdout" => some (s.routeOf 1)
  | "/dev/stderr" => some (s.routeOf 2)
  | _ => none

def createReason (fault : Storage.Fault) : String :=
  match fault with
  | .notFound => "Directory nonexistent"
  | fault => fault.reason

def openReason (fault : Storage.Fault) : String :=
  match fault with
  | .notFound => "No such file"
  | fault => fault.reason

/-- Output goes to a file, which is made by an operation on the disk. -/
def outputTo (make : Disk → Except Storage.Fault Disk) (stream : Nat) (path : String) (s : Shell) :
    Except String Shell :=
  match deviceRoute? path s with
  | some route => .ok (s.setRoute stream route)
  | none =>
    match make s.disk with
    | .ok d => .ok ({ s with disk := d }.setRoute stream (.file (absolutePath s.disk path)))
    | .error fault => .error ("cannot create " ++ path ++ ": " ++ createReason fault)

def redirectTo (direction : Direction) (stream : Nat) (target : String) (s : Shell) :
    Except String Shell :=
  match direction with
  | .copy =>
    if stream = 0 then .ok s
    else .ok (s.setRoute stream ((target.toNat?.map s.routeOf).getD .nowhere))
  | .here => .ok { s with input := target.toUTF8 }
  | .from =>
    match readSource 65536 target s with
    | (.ok bytes, s) => .ok { s with input := bytes }
    | (.error fault, _) => .error ("cannot open " ++ target ++ ": " ++ openReason fault)
  | .into => outputTo (fun d => d.write target ByteArray.empty) stream target s
  | .behind => outputTo (fun d => d.append target ByteArray.empty) stream target s

end SessionReplay.Shell
