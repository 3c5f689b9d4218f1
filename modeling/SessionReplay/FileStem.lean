/-!
# File stems

Recordings and scripts are stored under names that are made from free text.

* `stemChar`, `fileStem`: letters and digits of ASCII in lower case, an underscore for all else.
* `scriptName`: the file name of the script of a recording.
-/

namespace SessionReplay

def stemChar (c : Char) : Char := if c.isAlphanum then c.toLower else '_'

/-- The stem of a name. Different names may share a stem. -/
def fileStem (name : String) : String := String.ofList (name.toList.map stemChar)

def scriptName (stem : String) : String := fileStem stem ++ ".cy.js"

end SessionReplay
