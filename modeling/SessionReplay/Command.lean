import SessionReplay.Text.Blank

/-!
# Commands

The command lines of external programs. There is no quoting: words are separated by blanks.

* `Command.ofText?`: the program and its arguments, unless the text is blank.
* `Command.text`: the words joined by spaces.
-/

namespace SessionReplay

structure Command where
  program : String
  args : List String
  deriving DecidableEq, Repr

namespace Command

def ofText? (text : String) : Option Command :=
  match Text.words text with
  | [] => none
  | program :: args => some ⟨program, args⟩

def text (c : Command) : String := String.intercalate " " (c.program :: c.args)

end Command
end SessionReplay
