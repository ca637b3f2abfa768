import FormCheck.Text.Alphanumeric

namespace FormCheck.EnvFile

open Text (isAlphanumeric)

/-- Where in a value a character stands. Inside double quotes `quoted` holds. -/
inductive ValuePosition where
  | text (quoted : Bool)
  | escaped (quoted : Bool)
  | single
  | name (quoted braced : Bool) (chars : List Char)
  /-- After the value, where only blanks and a comment may follow. -/
  | ended
deriving DecidableEq, Repr

def isGap (c : Char) : Bool :=
  c == ' ' || c == '\t'

/-- The character for which one behind a backslash stands. Most characters stand for none. -/
def unescape? (c : Char) : Option Char :=
  if c ∈ ['\\', '\'', '"', '$', ' '] then some c
  else if c = 'n' then some '\n'
  else none

/-- Reads the rest of a value from a position. A number sign after the value ends it. A value may
end after a backslash or inside a name without braces, but not inside quotes or braces. -/
def readValueFrom (valueOf : List Char → List Char) :
    ValuePosition → List Char → Option (List Char)
  | .text quoted, [] => if quoted then none else some []
  | .escaped quoted, [] => if quoted then none else some []
  | .single, [] => none
  | .name quoted braced chars, [] => if quoted || braced then none else some (valueOf chars)
  | .ended, [] => some []
  | .text quoted, c :: rest =>
    if c = '$' then readValueFrom valueOf (.name quoted false []) rest
    else if c = '\\' then readValueFrom valueOf (.escaped quoted) rest
    else if c = '"' then readValueFrom valueOf (.text !quoted) rest
    else if c = '\'' ∧ !quoted then readValueFrom valueOf .single rest
    else if isGap c ∧ !quoted then readValueFrom valueOf .ended rest
    else (readValueFrom valueOf (.text quoted) rest).map (c :: ·)
  | .escaped quoted, c :: rest =>
    match unescape? c with
    | some d => (readValueFrom valueOf (.text quoted) rest).map (d :: ·)
    | none => none
  | .single, c :: rest =>
    if c = '\'' then readValueFrom valueOf (.text false) rest
    else (readValueFrom valueOf .single rest).map (c :: ·)
  | .name quoted braced chars, c :: rest =>
    if isAlphanumeric c then readValueFrom valueOf (.name quoted braced (chars ++ [c])) rest
    else if braced then
      if c.toNat = 0x7D then
        (readValueFrom valueOf (.text quoted) rest).map (valueOf chars ++ ·)
      else readValueFrom valueOf (.name quoted true (chars ++ [c])) rest
    else if c.toNat = 0x7B ∧ chars = [] then readValueFrom valueOf (.name quoted true []) rest
    else if c = '$' then
      (readValueFrom valueOf (.name quoted false []) rest).map (valueOf chars ++ ·)
    else (readValueFrom valueOf (.text quoted) rest).map fun s => valueOf chars ++ c :: s
  | .ended, c :: rest =>
    if isGap c then readValueFrom valueOf .ended rest
    else if c = '#' then some []
    else none

/-- Reads a value of an environment file: its quotes and escapes, and the names of variables whose
values are put in. -/
def readValue (valueOf : List Char → List Char) (s : List Char) : Option (List Char) :=
  readValueFrom valueOf (.text false) s

end FormCheck.EnvFile
