import SessionReplay.FileStem
import SessionReplay.Report.Entry
import SessionReplay.Service.Failure
import SessionReplay.Storage.Disk

/-!
# Downloaded recordings

The recordings that the reporting system keeps are saved as files, one for each entry that holds
a recording which can be read.

* `StoredRecording.document?`: the recording of an entry.
* `StoredRecording.stem`: the name it is saved under.
* `saveRecordings`: the number of recordings that were saved.
-/

namespace SessionReplay

namespace StoredRecording

def document? (r : StoredRecording) : Option Json :=
  r.recording.bind fun text => (Json.parse text).toOption

/-- The stem of the test's name. A recording without a name is named for its number among those
that are saved. -/
def stem (r : StoredRecording) (number : Nat) : String :=
  fileStem ((r.testName.filter fun name => !name.isEmpty).getD s!"recording_{number}")

end StoredRecording

def recordingPath (folder stem : String) : String := Path.join folder (stem ++ ".json")

/-- Saves recordings after `saved` others, up to the first that cannot be written. -/
def saveEach (folder : String) (saved : Nat) :
    List (Entry StoredRecording) → Disk → Except ServiceFailure Nat × Disk
  | [], d => (.ok saved, d)
  | e :: rest, d =>
    match e.values.document? with
    | none => saveEach folder saved rest d
    | some document =>
      let path := recordingPath folder (e.values.stem (saved + 1))
      match d.writeText path document.pretty with
      | .ok d => saveEach folder (saved + 1) rest d
      | .error fault => (.error (.storage path fault), d)

def saveRecordings (entries : List (Entry StoredRecording)) (folder : String) (d : Disk) :
    Except ServiceFailure Nat × Disk :=
  match d.makeFolders folder with
  | (.ok (), d) => saveEach folder 0 entries d
  | (.error fault, d) => (.error (.storage folder fault), d)

end SessionReplay
