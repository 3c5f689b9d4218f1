/-!
# Shell scripts

Part of what stands in for the programs of a host; no result rests on it.

The structure of a shell script: commands made of words, put together by operators.

* `Part`, `Word`: a word and its parts, which are expanded when the command is run.
* `Redirection`: where a stream of a command goes to or comes from.
* `Script`: a command or a composition of commands.
-/

namespace SessionReplay.Shell

/-- What is made of a parameter, with the help of a word. Some of these treat a parameter that is
empty like one that is not set. -/
inductive Modifier where
  | orElse (evenIfEmpty : Bool)
  | ifGiven (evenIfEmpty : Bool)
  | orSet (evenIfEmpty : Bool)
  | orFail (evenIfEmpty : Bool)
  | withoutFront (longest : Bool)
  | withoutBack (longest : Bool)
  | length
  deriving DecidableEq, Repr

inductive Part where
  | plain (s : String)
  | quoted (s : String)
  /-- The value of a parameter. A modifier comes with the text of its word. -/
  | parameter (name : String) (modifier : Option (Modifier × String)) (inQuotes : Bool)
  /-- The value of a sum. -/
  | arithmetic (text : String)
  /-- What a script writes. -/
  | output (script : String) (inQuotes : Bool)
  deriving DecidableEq, Repr

abbrev Word := List Part

/-- The text of a word without quotes and parameters. -/
def Word.literal? : Word → Option String
  | [.plain s] => some s
  | _ => none

inductive Direction where
  | into
  | behind
  | from
  /-- From the text that is given. -/
  | here
  /-- The same as another stream. -/
  | copy
  deriving DecidableEq, Repr

structure Redirection where
  stream : Nat
  direction : Direction
  target : Word
  deriving DecidableEq, Repr

inductive Script where
  | nothing
  | command (sets : List (String × Word)) (words : List Word) (redirections : List Redirection)
  | pipe (first second : Script)
  | sequence (first second : Script)
  | both (first second : Script)
  | either (first second : Script)
  | negation (script : Script)
  | background (script : Script)
  /-- In a shell of its own. -/
  | nested (script : Script) (redirections : List Redirection)
  | group (script : Script) (redirections : List Redirection)
  | choice (condition yes no : Script)
  /-- Repeated as long as the condition ends as it should. -/
  | loop (wanted : Bool) (condition body : Script)
  | each (name : String) (words : Option (List Word)) (body : Script)
  /-- The script of the first clause one of whose patterns stands for the subject. -/
  | choose (subject : Word) (clauses : List (List Word × Script))
  | define (name : String) (body : Script)
  deriving Repr, Inhabited

end SessionReplay.Shell
