import FormCheck.Pattern.Basic
import FormCheck.Text.Digits

/-!
Reading patterns: what a pattern says to an engine that is given nothing but its text.

A text is read from the left, one character at a time, without looking ahead. A group that is still
open waits on a stack together with what was read of it. Only whole patterns are read, from the mark
for the start to the mark for the end.
-/

namespace FormCheck.Pattern

open Text (decimal isDigit isNumeral)

/-- A set of the items between brackets, or of all characters outside of them. -/
def CharSet.ofItems (outside : Bool) (items : List SetItem) : CharSet :=
  if outside then .outside items else .among items

/-- What was read of a group: its alternatives so far and the pieces of the one that is being read,
both with the last one first. -/
structure Group where
  picked : Bool
  branches : List Pattern := []
  pieces : List Pattern := []

namespace Group

def add (group : Group) (p : Pattern) : Group :=
  { group with pieces := p :: group.pieces }

/-- Ends the alternative that is being read and begins the next one. -/
def nextBranch (group : Group) : Group :=
  { group with branches := inTurn group.pieces.reverse :: group.branches, pieces := [] }

/-- Puts a number of repetitions to the last piece. -/
def count (group : Group) (counted : Pattern → Pattern) : Option Group :=
  match group.pieces with
  | [] => none
  | p :: pieces => some { group with pieces := counted p :: pieces }

/-- The pattern of a group that is at its end. The last alternative is the innermost one. -/
def pattern (group : Group) : Pattern :=
  let whole := group.branches.foldl (fun rest branch => .either branch rest)
    (inTurn group.pieces.reverse)
  if group.picked then .part whole else whole

end Group

/-- What comes before a place at which a piece may begin. A number of repetitions may only follow a
piece, and not another such number. -/
inductive Before where
  | nothing
  | opening
  | piece

/-- A place in the text of a pattern, and what is not yet a piece there. -/
inductive Place where
  | ahead
  | between (before : Before)
  | escaped
  | marked
  /-- Inside of brackets, with the items that were read, the last one first. -/
  | items (outside : Bool) (read : List SetItem)
  | escapedItem (outside : Bool) (read : List SetItem)
  | upTo (outside : Bool) (read : List SetItem)
  | least (digits : List Char)
  | most (least : Nat) (digits : List Char)
  | done

/-- What was read of a pattern: the groups that are open around the innermost one, that group, and
the place in it. -/
structure Reading where
  outer : List Group
  group : Group
  place : Place

namespace Reading

def start : Reading :=
  { outer := [], group := { picked := false }, place := .ahead }

def add (reading : Reading) (p : Pattern) : Reading :=
  { reading with group := reading.group.add p, place := .between .piece }

/-- Puts a number of repetitions to the last piece. No other one may follow at once. -/
def count (reading : Reading) (counted : Pattern → Pattern) : Option Reading :=
  (reading.group.count counted).map fun group => { reading with group, place := .between .nothing }

/-- Ends the innermost group, which becomes a piece of the group around it. -/
def closeGroup (reading : Reading) : Option Reading :=
  match reading.outer with
  | [] => none
  | group :: outer => some (Reading.add ⟨outer, group, reading.place⟩ reading.group.pattern)

/-- Ends a set in brackets, in which there has to be at least one item. -/
def closeSet (reading : Reading) (outside : Bool) (read : List SetItem) : Option Reading :=
  if read.isEmpty then none
  else some (reading.add (.one (.ofItems outside read.reverse)))

/-- Reads a question mark. It lets the last piece be left out, or says that a group is not picked
out. -/
def question (reading : Reading) : Before → Option Reading
  | .piece => reading.count optional
  | .opening => some { reading with place := .marked }
  | .nothing => none

/-- Reads a character where a piece may begin. -/
def between (reading : Reading) (before : Before) (c : Char) : Option Reading :=
  match c with
  | '(' => some ⟨reading.group :: reading.outer, { picked := true }, .between .opening⟩
  | ')' => reading.closeGroup
  | '|' => some { reading with group := reading.group.nextBranch, place := .between .nothing }
  | '[' => some { reading with place := .items false [] }
  | '.' => some (reading.add (.one .inLine))
  | '\\' => some { reading with place := .escaped }
  | '?' => reading.question before
  | '*' => if before matches .piece then reading.count star else none
  | '+' => if before matches .piece then reading.count plus else none
  | '\x7b' => if before matches .piece then some { reading with place := .least [] } else none
  | '$' =>
    if reading.outer.isEmpty && reading.group.branches.isEmpty then
      some { reading with place := .done }
    else none
  | '^' | ']' | '\x7d' => none
  | c => some (reading.add (just c))

def inItems (reading : Reading) (outside : Bool) (read : List SetItem) (c : Char) :
    Option Reading :=
  match c with
  | ']' => reading.closeSet outside read
  | '[' => none
  | '\\' => some { reading with place := .escapedItem outside read }
  | '-' => some { reading with place := .upTo outside read }
  | '^' =>
    if !outside && read.isEmpty then some { reading with place := .items true [] }
    else some { reading with place := .items outside (.char '^' :: read) }
  | c => some { reading with place := .items outside (.char c :: read) }

/-- A hyphen stands for itself before the closing bracket and makes a span everywhere else. -/
def afterHyphen (reading : Reading) (outside : Bool) (read : List SetItem) (c : Char) :
    Option Reading :=
  match c with
  | ']' => reading.closeSet outside (.char '-' :: read)
  | '[' | '\\' | '-' => none
  | c =>
    match read with
    | .char first :: read =>
      if first ≤ c then some { reading with place := .items outside (.span first c :: read) }
      else none
    | _ => none

def inLeast (reading : Reading) (digits : List Char) (c : Char) : Option Reading :=
  if isDigit c then some { reading with place := .least (digits ++ [c]) }
  else if !isNumeral digits then none
  else if c = ',' then some { reading with place := .most (decimal digits) [] }
  else if c = '\x7d' then reading.count (exactly (decimal digits))
  else none

def inMost (reading : Reading) (least : Nat) (digits : List Char) (c : Char) : Option Reading :=
  if isDigit c then some { reading with place := .most least (digits ++ [c]) }
  else if c ≠ '\x7d' then none
  else if digits.isEmpty then reading.count (.times · least none)
  else if least ≤ decimal digits then reading.count (.times · least (some (decimal digits)))
  else none

/-- Reads one character, or fails if it cannot stand where it does. -/
def step (reading : Reading) (c : Char) : Option Reading :=
  match reading.place with
  | .ahead => if c = '^' then some { reading with place := .between .nothing } else none
  | .between before => reading.between before c
  | .escaped => if CharSet.isSpecial c then some (reading.add (just c)) else none
  | .marked =>
    if c = ':' then some ⟨reading.outer, { picked := false }, .between .nothing⟩ else none
  | .items outside read => reading.inItems outside read c
  | .escapedItem outside read =>
    if c = 's' then some { reading with place := .items outside (.blank :: read) } else none
  | .upTo outside read => reading.afterHyphen outside read c
  | .least digits => reading.inLeast digits c
  | .most least digits => reading.inMost least digits c
  | .done => none

def run (reading : Reading) (s : List Char) : Option Reading :=
  s.foldlM step reading

/-- The pattern that was read, once the mark for its end is behind. -/
def result? (reading : Reading) : Option Pattern :=
  match reading.place with
  | .done => some reading.group.pattern
  | _ => none

end Reading

/-- The pattern that a text stands for. -/
def ofSource? (source : String) : Option Pattern :=
  (Reading.start.run source.toList).bind Reading.result?

end FormCheck.Pattern
