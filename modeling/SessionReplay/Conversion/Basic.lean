import SessionReplay.Conversion.Log
import SessionReplay.FileStem
import SessionReplay.Script.Assembly

/-!
# Converting a recording

A recording file becomes a script file. The recording is removed once its script is written, so
that it is not converted twice.

* `Converter`: the folder for scripts and the log.
* `ConversionFailure`, `Converted`: what comes of a conversion.
* `Converter.convert`: the conversion of one file.
-/

namespace SessionReplay

structure Converter where
  output : String
  log : String
  deriving DecidableEq, Repr

inductive ConversionFailure where
  | list (path : String) (fault : Storage.Fault)
  | makeOutput (path : String) (fault : Storage.Fault)
  | read (path : String) (fault : Storage.Fault)
  | parse (path : String) (fault : Json.Fault)
  | write (path : String) (fault : Storage.Fault)
  | badName (path : String)
  deriving DecidableEq, Repr

namespace ConversionFailure

def cause? : ConversionFailure → Option String
  | list _ fault | makeOutput _ fault | read _ fault | write _ fault => some fault.message
  | parse _ fault => some fault.message
  | badName _ => none

def heading : ConversionFailure → String
  | list path _ => "Failed to list recordings in " ++ path
  | makeOutput path _ => "Failed to create output directory " ++ path
  | read path _ => "Failed to read recording " ++ path
  | parse path _ => "Failed to parse recording " ++ path
  | write path _ => "Failed to write script " ++ path
  | badName path => "Invalid recording file name: " ++ path

def message (f : ConversionFailure) : String :=
  match f.cause? with
  | some cause => f.heading ++ ": " ++ cause
  | none => f.heading

def trouble (f : ConversionFailure) : Trouble := ⟨f.message, f.cause?.toList⟩

end ConversionFailure

structure Converted where
  source : String
  script : String
  /-- The number of steps without instructions. -/
  diagnostics : Nat
  deriving DecidableEq, Repr

namespace Converter

/-! ## What is logged -/

def viewportMessages (name : String) (r : Recording) : List String :=
  match r.viewport with
  | some v =>
    if v.isSet then [name ++ s!": viewport {v.width.toNat}x{v.height.toNat}"] else []
  | none => []

def diagnosticMessages (name : String) (s : Script) : List String :=
  s.diagnostics.map fun d => name ++ ": " ++ d.message

def keptMessage (name : String) (fault : Storage.Fault) : String :=
  name ++ ": converted but could not delete source: " ++ fault.message

def convertedMessage (name script : String) : String := "Converted " ++ name ++ " -> " ++ script

/-! ## The conversion -/

def scriptPath (c : Converter) (stem : String) : String := Path.join c.output (scriptName stem)

/-- Removes the source of a script that is written, and logs the conversion. -/
def consume (c : Converter) (path name script : String) (diagnostics : Nat) (h : Host) :
    Except ConversionFailure Converted × Host :=
  let (removed, h) := h.onDisk (h.disk.remove path)
  let h := match removed with
    | .ok () => h
    | .error fault => h.log c.log (keptMessage name fault)
  (.ok ⟨path, script, diagnostics⟩, h.log c.log (convertedMessage name script))

/-- Writes a script and consumes its source. -/
def store (c : Converter) (path name stem : String) (s : Script) (h : Host) :
    Except ConversionFailure Converted × Host :=
  match h.disk.makeFolders c.output with
  | (.error fault, disk) => (.error (.makeOutput c.output fault), { h with disk := disk })
  | (.ok (), disk) =>
    let script := c.scriptPath stem
    match disk.writeText script s.source with
    | .error fault => (.error (.write script fault), { h with disk := disk })
    | .ok disk => c.consume path name script s.diagnostics.length { h with disk := disk }

def convert (c : Converter) (path : String) (h : Host) :
    Except ConversionFailure Converted × Host :=
  match Path.stem? path with
  | none => (.error (.badName path), h)
  | some stem =>
    match h.disk.readText path with
    | .error fault => (.error (.read path fault), h)
    | .ok text =>
      match Recording.ofText text with
      | .error fault => (.error (.parse path fault), h)
      | .ok r =>
        let name := (Path.fileName? path).getD path
        let s := Script.ofRecording r stem
        c.store path name stem s
          (h.logAll c.log (viewportMessages name r ++ diagnosticMessages name s))

end Converter
end SessionReplay
