import SessionReplay.Conversion.Basic

/-!
# Converting a folder

All recordings in a folder are converted. One that fails is reported and left where it is, and
the others are not affected.

* `Batch`: the recordings that were converted and those that failed.
* `Converter.convertAll`.
-/

namespace SessionReplay

structure Failed where
  source : String
  message : String
  deriving DecidableEq, Repr

structure Batch where
  converted : List Converted := []
  failed : List Failed := []
  deriving DecidableEq, Repr

namespace Batch

def isEmpty (b : Batch) : Bool := b.converted.isEmpty && b.failed.isEmpty

end Batch

namespace Converter

def isRecordingName (name : String) : Bool := Path.extension? name == some "json"

/-- The recordings in a folder, in the order in which it is listed. -/
def recordings (d : Disk) (folder : String) : Except Storage.Fault (List String) := do
  let names ← d.list folder
  .ok ((names.map (Path.join folder)).filter fun path => d.isFile path && isRecordingName path)

/-- Converts one more recording. -/
def convertNext (c : Converter) (state : Batch × Host) (path : String) : Batch × Host :=
  let (batch, h) := state
  match c.convert path h with
  | (.ok converted, h) => ({ batch with converted := batch.converted ++ [converted] }, h)
  | (.error failure, h) =>
    ({ batch with failed := batch.failed ++ [⟨path, failure.message⟩] },
      h.log c.log failure.message)

def noFolderMessage (folder : String) : String :=
  "No recordings directory at " ++ folder ++ ", nothing to convert"

def noRecordingsMessage (folder : String) : String := "No recordings found in " ++ folder

def convertAll (c : Converter) (folder : String) (h : Host) :
    Except ConversionFailure Batch × Host :=
  if !h.disk.has folder then (.ok {}, h.log c.log (noFolderMessage folder))
  else
    match recordings h.disk folder with
    | .error fault => (.error (.list folder fault), h)
    | .ok paths =>
      let h := if paths.isEmpty then h.log c.log (noRecordingsMessage folder) else h
      let (batch, h) := paths.foldl c.convertNext ({}, h)
      (.ok batch, h)

end Converter
end SessionReplay
