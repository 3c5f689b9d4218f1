import SessionReplay.Recording.Step

/-!
# Form entries

The reporting system keeps its records as entries of forms, each wrapped in an envelope.

* `Entry`: the envelope.
* `StoredRecording`: the fields of an entry that holds a recording as text.
* `StoredRecordings`: a list of such entries.
-/

namespace SessionReplay

open Json

structure Entry (α : Type) where
  values : α
  deriving DecidableEq, Repr

namespace Entry

def toJson {α : Type} (write : α → Json) (e : Entry α) : Json :=
  .object [("values", write e.values)]

def decode {α : Type} (read : Node → Except Fault α) : Node → Except Fault (Entry α) :=
  Fields.decode "EntryPayload" (Entry.mk <$> .required "values" read)

end Entry

structure StoredRecording where
  testName : Option String
  recording : Option String
  deriving DecidableEq, Repr

namespace StoredRecording

def toJson (r : StoredRecording) : Json :=
  .object [("TestName", Json.ofOption .string r.testName),
    ("Recording", Json.ofOption .string r.recording)]

def decode : Node → Except Fault StoredRecording :=
  Fields.decode "RecordingEntryValues"
    (StoredRecording.mk <$> .optional "TestName" Node.asString
      <*> .optional "Recording" Node.asString)

end StoredRecording

structure StoredRecordings where
  entries : List (Entry StoredRecording)
  deriving DecidableEq, Repr

namespace StoredRecordings

def toJson (r : StoredRecordings) : Json :=
  .object [("entries", .array (r.entries.map (Entry.toJson StoredRecording.toJson)))]

def decode : Node → Except Fault StoredRecordings :=
  Fields.decode "RecordingEntries"
    (StoredRecordings.mk <$>
      .withDefault "entries" (Node.asList (Entry.decode StoredRecording.decode)) [])

end StoredRecordings
end SessionReplay
