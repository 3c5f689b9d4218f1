import SessionReplay.Storage.Disk
import SessionReplay.Text.Base64

/-!
# Screenshots

A test file has a folder of screenshots, named like it. The first image in it goes with the
reports of its failed tests.

* `Screenshot.find`: the path of the image.
* `Screenshot.encode`: the text of an image, cut where it is too large.
-/

namespace SessionReplay.Screenshot

open Storage

def isImage (name : String) : Bool :=
  match Path.extension? name with
  | some ext => ext.toLower == "png"
  | none => false

/-- Names in ascending order. -/
def sortNames (names : List String) : List String := names.mergeSort fun a b => decide (a ≤ b)

/-- The images in a folder in the order of their names. -/
def images (d : Disk) (folder : String) : List String :=
  match d.list folder with
  | .ok names => (sortNames (names.filter isImage)).map (Path.join folder)
  | .error _ => []

def find (d : Disk) (root file : String) : Option String := do
  let name ← Path.fileName? file
  (images d (Path.join root name)).head?

/-- Images above this size are cut. -/
def maxBytes : Nat := 500 * 1024

/-- The text of an image. Of a large image the text is cut to as many characters as the largest
image has bytes, which leaves the beginning of the image. -/
def encode (bytes : ByteArray) : String :=
  let encoded := Text.base64Chars bytes.toList
  String.ofList (if maxBytes < bytes.size then encoded.take maxBytes else encoded)

def load (d : Disk) (path : String) : Except Fault String := encode <$> d.read path

end SessionReplay.Screenshot
