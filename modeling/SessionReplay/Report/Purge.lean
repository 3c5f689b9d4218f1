import SessionReplay.Storage.Disk

/-!
# Purging the files of a run

When the results of a run were published, or could not be, its files are removed, so that no
later run publishes them again.

* `isRunReport`: the names of the reports that a run leaves.
* `Disk.purge`: the number of files that were removed, and the disk without them.
-/

namespace SessionReplay

def isRunReport (name : String) : Bool :=
  "mochawesome".toList.isPrefixOf name.toList && ".json".toList.isSuffixOf name.toList

namespace Disk

/-- Removes a file if that is possible, and counts it. -/
def discard (state : Nat × Disk) (path : String) : Nat × Disk :=
  match state.2.remove path with
  | .ok d => (state.1 + 1, d)
  | .error _ => state

/-- The paths of the reports in a folder. -/
def runReports (d : Disk) (folder : String) : List String :=
  match d.list folder with
  | .ok names => (names.filter isRunReport).map (Path.join folder)
  | .error _ => []

def purge (d : Disk) (results reports : String) : Nat × Disk :=
  let first := if d.has results then discard (0, d) results else (0, d)
  (first.2.runReports reports).foldl discard first

end Disk
end SessionReplay
