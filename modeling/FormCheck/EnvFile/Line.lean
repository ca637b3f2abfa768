import FormCheck.Text.Blank

namespace FormCheck.EnvFile

open Text (trimStart isBlank)

/-- The lines of a text, each with the line feed that ends it. -/
def physicalLines : List Char → List (List Char)
  | [] => []
  | c :: rest =>
    if c = '\n' then [c] :: physicalLines rest
    else
      match physicalLines rest with
      | [] => [[c]]
      | line :: lines => (c :: line) :: lines

/-- Where in a logical line a character stands. The line ends, and a comment begins, at some of
these positions only. -/
inductive Position where
  /-- Outside of quotes, where a line may end. -/
  | plain
  | afterBlank
  | escaped
  | inDouble
  | escapedInDouble
  | inSingle
  | escapedInSingle
deriving DecidableEq, Repr

namespace Position

/-- The position after a character outside of quotes. -/
def afterPlain (c : Char) : Position :=
  if c = '\\' then .escaped
  else if c = '"' then .inDouble
  else if c = '\'' then .inSingle
  else .plain

/-- The position after one more character. Of two blanks in a row the second does not count as
one. -/
def next : Position → Char → Position
  | .plain, c => if isBlank c && c != '\n' && c != '\r' then .afterBlank else afterPlain c
  | .afterBlank, c => afterPlain c
  | .escaped, _ => .plain
  | .inDouble, c =>
    if c = '\\' then .escapedInDouble else if c = '"' then .plain else .inDouble
  | .escapedInDouble, _ => .inDouble
  | .inSingle, c =>
    if c = '\\' then .escapedInSingle else if c = '\'' then .plain else .inSingle
  | .escapedInSingle, _ => .inSingle

end Position

/-- Walks over a physical line. Gives the position at its end, or the part before the comment that
ends it. -/
def walk (position : Position) : List Char → Position ⊕ List Char
  | [] => .inl position
  | c :: rest =>
    if position = .afterBlank ∧ c = '#' then .inr []
    else
      match walk (position.next c) rest with
      | .inl last => .inl last
      | .inr before => .inr (c :: before)

/-- A line without its line feed, and without a carriage return before that. -/
def dropLineEnd (s : List Char) : List Char :=
  match s.reverse with
  | '\n' :: '\r' :: before => before.reverse
  | '\n' :: before => before.reverse
  | _ => s

/-- The logical lines that start with a given text and position. One that the file leaves open is
`none`, and is the last. -/
def logicalLines (start : List Char) (position : Position) :
    List (List Char) → List (Option (List Char))
  | [] => if position = .plain then [] else [none]
  | line :: lines =>
    if (trimStart (start ++ line)).head? = some '#' then
      some [] :: logicalLines [] .plain lines
    else
      match walk position line with
      | .inr before => some (start ++ before) :: logicalLines [] .plain lines
      | .inl .plain => some (dropLineEnd (start ++ line)) :: logicalLines [] .plain lines
      | .inl open' => logicalLines (start ++ line) open' lines

/-- The logical lines of an environment file. A quoted text may run over several lines of the file,
a comment ends a line, and a line that begins with a number sign is a comment as a whole. -/
def lines (text : List Char) : List (Option (List Char)) :=
  logicalLines [] .plain (physicalLines text)

end FormCheck.EnvFile
