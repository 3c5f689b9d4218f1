import SessionReplay.CommandLine.Run
import SessionReplay.CommandLine.Usage
import Std.Time.DateTime.Timestamp

/-!
# The program

The order in the arguments is carried out on a host whose disk holds the files that the order is
about. What was changed is written back.
-/

namespace SessionReplay.Main

open CommandLine Storage

/-! ## Files -/

/-- How deep folders are looked into. -/
def depth : Nat := 8

/-- The paths that an order is about. -/
def pathsOf : Operation → List String
  | .convert paths | .fetch paths _ => [paths.input, paths.output, paths.log]
  | .submit _ file _ => [file]
  | .showQueue | .checkHealth => []
  | .publish files _ => [files.results, files.screenshots, files.reports]

def withParent (d : Disk) (path : String) : Disk :=
  match Path.parent? path with
  | some up => (d.makeFolders up).2
  | none => d

/-- The disk with what stands at a path. -/
def load : Nat → Disk → String → IO Disk
  | 0, d, _ => pure d
  | n + 1, d, path => do
    try
      let place ← IO.FS.realPath path
      if ← place.isDir then
        let names := (← place.readDir).toList.map (·.fileName)
        names.foldlM (fun d name => load n d (Path.join path name)) (d.makeFolders path).2
      else
        let bytes ← IO.FS.readBinFile path
        pure (((withParent d path).write path bytes).toOption.getD d)
    catch _ => pure d

def pathOf (place : Place) : String := "/" ++ String.intercalate "/" place

/-- Writes what differs from the disk that was loaded. -/
def store (before after : Disk) : IO Unit := do
  for (place, entry) in after.entries do
    if before.entry? place != some entry then
      match entry with
      | .folder => IO.FS.createDirAll (pathOf place)
      | .file bytes => IO.FS.writeBinFile (pathOf place) bytes
  for (place, entry) in before.entries do
    if (after.entry? place).isNone then
      match entry with
      | .folder => IO.FS.removeDir (pathOf place)
      | .file _ => IO.FS.removeFile (pathOf place)

/-- The disk with the paths of an order, seen from the working folder. -/
def diskFor (o : Operation) : IO Disk := do
  let here ← IO.FS.realPath "."
  let home := ((Path.pieces here.toString).filter fun piece => !piece.isEmpty)
  let start := ((Disk.empty home).makeFolders (pathOf home)).2
  (pathsOf o).foldlM (load depth) start

/-! ## Surroundings -/

def clock : IO (Nat → Instant) := do
  let nanos := (← Std.Time.Timestamp.now).toNanosecondsSinceUnixEpoch.val
  pure fun _ => ⟨nanos / 1000000000, (nanos % 1000000000).toNat⟩

def environment : IO Settings.Lookup := do
  let keys := Account.requiredKeys ++ ["HELIX_FORM", "HELIX_RECORDING_FORM"]
  let values ← keys.mapM fun key => do pure (key, ← IO.getEnv key)
  pure fun key => (values.find? (·.1 == key)).bind (·.2)

/-! ## Orders -/

/-- The exit code of an order that was carried out. -/
def follow (o : Order) : IO UInt32 := do
  let before ← diskFor o.operation
  let host : Host := { disk := before, clock := ← clock }
  let (completion, after) := o.run ⟨← (← IO.getStdout).isTty⟩ (← environment) host
  store before after.disk
  IO.print completion.output
  match completion.result with
  | .ok () => pure 0
  | .error trouble =>
    IO.eprintln ("Error: " ++ trouble.report)
    pure 1

def explain (fault : UsageFault) : IO UInt32 := do
  let lines := fault.message :: usageLines "session-replay"
  if fault.isRequest then
    lines.forM IO.println
    pure 0
  else
    lines.forM IO.eprintln
    pure 2

end SessionReplay.Main

def main (args : List String) : IO UInt32 :=
  match SessionReplay.CommandLine.Order.ofArgs args with
  | .ok order => SessionReplay.Main.follow order
  | .error fault => SessionReplay.Main.explain fault
