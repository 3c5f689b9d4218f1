import SessionReplay.Storage.Disk
import SessionReplay.Text.Lossy

/-!
# Names that are no texts

The names on a disk are texts. A file can also have a name that is no text; where such names count,
those in a folder are given beside the disk.

* `Stray`, `Strays`: a name that is no text, and those in a folder; `Stray.extension?`.
* `EntryName`: a name of either kind; `EntryName.bytes`.
* `EntryName.path`: the bytes of a path; `EntryName.shown`: the path as a text, in which what is no
  text is replaced.
* `EntryName.sort`: names in the order of their bytes.
* `Disk.listBeside`: the names in a folder.
-/

namespace SessionReplay

namespace Storage

/-- Whether something can have these bytes for a name although they are no text. -/
def isStray (bytes : List UInt8) : Bool :=
  (String.fromUTF8? bytes.toByteArray).isNone && !bytes.contains 0x2F && !bytes.contains 0 &&
    bytes.length ≤ maxName

structure Stray where
  bytes : List UInt8
  noText : isStray bytes = true
  deriving DecidableEq

/-- What stands behind the last dot of a name, unless nothing stands before that. -/
def Stray.extension? (name : Stray) : Option (List UInt8) :=
  let reversed := name.bytes.reverse
  let before := (reversed.dropWhile (· != 0x2E)).drop 1
  if before.isEmpty then none else some (reversed.takeWhile (· != 0x2E)).reverse

/-- The names in one folder that are no texts. -/
structure Strays where
  names : List Stray
  nodup : names.Nodup

def Strays.none : Strays := ⟨[], .nil⟩

inductive EntryName where
  | text (name : String)
  | stray (name : Stray)
  deriving DecidableEq

namespace EntryName

def bytes : EntryName → List UInt8
  | .text name => Text.utf8 name
  | .stray name => name.bytes

/-- The path to a name in a folder. -/
def path (folder : String) : EntryName → List UInt8
  | .text name => Text.utf8 (Path.join folder name)
  | .stray name => Text.utf8 (Path.join folder "") ++ name.bytes

def shown (folder : String) (name : EntryName) : String := Text.lossy (name.path folder)

/-- Names in ascending order. -/
def sort (names : List EntryName) : List EntryName :=
  names.mergeSort fun a b => decide (a.bytes ≤ b.bytes)

end EntryName

end Storage

open Storage

/-- The names in a folder that holds further names beside those on the disk. -/
def Disk.listBeside (d : Disk) (strays : Strays) (path : String) : Except Fault (List EntryName) :=
  (d.list path).map fun names => names.map .text ++ strays.names.map .stray

end SessionReplay
