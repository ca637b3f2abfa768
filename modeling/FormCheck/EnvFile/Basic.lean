import FormCheck.CharacterClass
import FormCheck.EnvFile.Line
import FormCheck.EnvFile.Value
import FormCheck.Settings.Variables
import FormCheck.Text.Blank

/-!
Environment files: lines that set variables, `NAME=value`, with an optional `export` before the
name.

Reading stops at the first line that does not follow the format. What the lines before it set is
kept apart from the question whether the file was read to its end: loading a file into an
environment uses the one, reading it as a settings file asks for the other.
-/

namespace FormCheck.EnvFile

open Settings (Variables)
open Text (trimStart trimEnd isDigit)

/-- The characters that a name may begin with. -/
def isNameStart (c : Char) : Bool :=
  isLetter c || c == '_'

/-- The characters that a name may go on with. -/
def isNameChar (c : Char) : Bool :=
  isLetter c || isDigit c || c == '_' || c == '.'

/-- Takes a name off the front of a text, and passes over the blanks behind it. -/
def takeName? (s : List Char) : Option (List Char × List Char) :=
  if s.head?.any isNameStart then
    some (s.takeWhile isNameChar, trimStart (s.dropWhile isNameChar))
  else none

/-- Takes the name that a line sets and the text after the equals sign. A name `export` that no
equals sign follows stands before the name that is set. -/
def takeTarget? (s : List Char) : Option (List Char × List Char) :=
  match takeName? s with
  | some (name, '=' :: rest) => some (name, trimStart rest)
  | some (name, rest) =>
    if name = "export".toList then
      match takeName? rest with
      | some (name, '=' :: rest) => some (name, trimStart rest)
      | _ => none
    else none
  | none => none

/-- What a logical line says: nothing, a variable with its value, or something that cannot be
read. -/
inductive Line where
  | blank
  | entry (name value : String)
  | bad
deriving DecidableEq, Repr

/-- Reads a logical line. A comment in the place of the value leaves it empty. -/
def readLine (valueOf : String → String) (line : List Char) : Line :=
  let s := trimStart (trimEnd line)
  if s.head?.all (· == '#') then .blank
  else
    match takeTarget? s with
    | none => .bad
    | some (name, rest) =>
      if rest.head?.all (· == '#') then .entry (String.ofList name) ""
      else
        match readValue (fun n => (valueOf (String.ofList n)).toList) rest with
        | some value => .entry (String.ofList name) (String.ofList value)
        | none => .bad

/-- How far a file has been read: the environment by then, the entries in order, and whether no line
was bad. -/
structure Reading where
  /-- The variables that names in the file refer to first. -/
  environment : Variables
  entries : List (String × String)
  complete : Bool
deriving DecidableEq, Repr

/-- The value that a name stands for: that of the environment, or else what the file set last, or
else nothing. -/
def Reading.valueOf (r : Reading) (name : String) : String :=
  ((r.environment.textAfter? name).or (Variables.get? r.entries name)).getD ""

/-- Takes up an entry. It is up to `keep` what the entry does to the environment. -/
def Reading.add (keep : Variables → String × String → Variables) (r : Reading)
    (entry : String × String) : Reading :=
  { r with environment := keep r.environment entry, entries := r.entries ++ [entry] }

/-- Reads logical lines in order and stops at the first bad one. -/
def readLines (keep : Variables → String × String → Variables) (r : Reading) :
    List (Option (List Char)) → Reading
  | [] => r
  | none :: _ => { r with complete := false }
  | some line :: lines =>
    match readLine r.valueOf line with
    | .blank => readLines keep r lines
    | .entry name value => readLines keep (r.add keep (name, value)) lines
    | .bad => { r with complete := false }

/-- The entries of a file in their order. A bad line makes the whole file unreadable. -/
def entries? (text : String) : Option (List (String × String)) :=
  let r := readLines (fun environment _ => environment) ⟨[], [], true⟩ (lines text.toList)
  if r.complete then some r.entries else none

/-- Sets a variable, unless the environment has one of that name. -/
def addMissing (environment : Variables) (entry : String × String) : Variables :=
  if (environment.get? entry.1).isSome then environment else environment ++ [entry]

/-- The text behind a byte order mark. -/
def dropMark (s : List Char) : List Char :=
  match s with
  | c :: rest => if c.toNat = 0xFEFF then rest else s
  | [] => []

/-- An environment with what a file adds to it. No variable is replaced, and what follows a bad
line is left out. -/
def load (environment : Variables) (text : String) : Variables :=
  (readLines addMissing ⟨environment, [], true⟩ (lines (dropMark text.toList))).environment

end FormCheck.EnvFile
