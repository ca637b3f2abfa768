import FormCheck.Pattern.CharSet

/-!
Patterns: what they accept, how they are matched and how they are written.

A pattern is always matched against a whole text. `Accepts` says which texts it accepts, one rule
for each way in which a text can be made up. `accepts` decides that by reading the text from the
left: the patterns that the rest of the text may still satisfy are kept, and the text is accepted
when one of them accepts the empty rest.
-/

namespace FormCheck

/-- A pattern, put together from sets of characters. -/
inductive Pattern where
  | empty
  | one (set : Pattern.CharSet)
  | seq (p q : Pattern)
  | either (p q : Pattern)
  /-- At least `least` texts of a pattern after one another, and at most `most` when given. -/
  | times (p : Pattern) (least : Nat) (most : Option Nat)
  /-- A part that is picked out for its own sake. -/
  | part (p : Pattern)
deriving DecidableEq

namespace Pattern

/-- The texts that a pattern accepts. How a text is found to be one of them is left open. -/
inductive Accepts : Pattern → List Char → Prop
  | empty : Accepts .empty []
  | one {set : CharSet} {c : Char} : set.contains c = true → Accepts (.one set) [c]
  | seq {p q : Pattern} {s t : List Char} :
      Accepts p s → Accepts q t → Accepts (.seq p q) (s ++ t)
  | left {p q : Pattern} {s : List Char} : Accepts p s → Accepts (.either p q) s
  | right {p q : Pattern} {s : List Char} : Accepts q s → Accepts (.either p q) s
  | stop {p : Pattern} {most : Option Nat} : Accepts (.times p 0 most) []
  | more {p : Pattern} {least : Nat} {most : Option Nat} {s t : List Char} :
      most ≠ some 0 → Accepts p s → Accepts (.times p (least - 1) (most.map (· - 1))) t →
      Accepts (.times p least most) (s ++ t)
  | part {p : Pattern} {s : List Char} : Accepts p s → Accepts (.part p) s

/-- Whether a pattern accepts the empty text. -/
def nullable : Pattern → Bool
  | .empty => true
  | .one _ => false
  | .seq p q => p.nullable && q.nullable
  | .either p q => p.nullable || q.nullable
  | .times p least most => least == 0 || (p.nullable && most.all (least ≤ ·))
  | .part p => p.nullable

/-- A row of two patterns, without the first where that one is empty. -/
def followedBy : Pattern → Pattern → Pattern
  | .empty, q => q
  | p, q => .seq p q

/-- The patterns of which the rest of a text has to satisfy one when its first character is `c`. -/
def after (c : Char) : Pattern → List Pattern
  | .empty => []
  | .one set => if set.contains c then [.empty] else []
  | .seq p q =>
    (p.after c).map (·.followedBy q) ++ (if p.nullable then q.after c else [])
  | .either p q => p.after c ++ q.after c
  | .times p least most =>
    if most = some 0 then []
    else (p.after c).map (·.followedBy (.times p (least - 1) (most.map (· - 1))))
  | .part p => p.after c

/-- Whether one of several patterns accepts a text, which is read from the left. -/
def anyAccepts : List Pattern → List Char → Bool
  | ps, [] => ps.any nullable
  | ps, c :: rest => anyAccepts (ps.flatMap (after c)) rest

/-- Whether a pattern accepts a text, found by reading it once. -/
def accepts (p : Pattern) (s : List Char) : Bool :=
  anyAccepts [p] s

def matchesText (p : Pattern) (value : String) : Bool :=
  p.accepts value.toList

/-- A row of patterns. The last one stands without an empty pattern behind it. -/
def inTurn : List Pattern → Pattern
  | [] => .empty
  | [p] => p
  | p :: ps => .seq p (inTurn ps)

def just (c : Char) : Pattern := .one (.just c)

def word (s : String) : Pattern := inTurn (s.toList.map just)

def optional (p : Pattern) : Pattern := .either p .empty

def star (p : Pattern) : Pattern := .times p 0 none

def plus (p : Pattern) : Pattern := .times p 1 none

def exactly (n : Nat) (p : Pattern) : Pattern := .times p n (some n)

def atMost (n : Nat) (p : Pattern) : Pattern := .times p 0 (some n)

def braced (s : String) : List Char :=
  Char.ofNat 0x7B :: s.toList ++ [Char.ofNat 0x7D]

/-- How a number of repetitions is written behind a pattern. A range that starts at zero names
both of its ends. -/
def countSource (least : Nat) (most : Option Nat) : List Char :=
  match most with
  | none => if least = 0 then ['*'] else if least = 1 then ['+'] else braced (toString least ++ ",")
  | some most =>
    if 0 < least ∧ least = most then braced (toString least)
    else braced (toString least ++ "," ++ toString most)

/-- Whether a number of repetitions can be put to a pattern as it is written. -/
def isTight : Pattern → Bool
  | .one _ => true
  | .part _ => true
  | _ => false

/-- A text with brackets around it where these are needed. The group that they make is not picked
out. -/
def bracket (needed : Bool) (s : List Char) : List Char :=
  if needed then "(?:".toList ++ s ++ [')'] else s

/-- A pattern as written, without the marks for the two ends of the text. -/
def sourceChars : Pattern → List Char
  | .empty => []
  | .one set => set.source
  | .seq p q => p.sourceChars ++ q.sourceChars
  | .either p .empty => bracket (!p.isTight) p.sourceChars ++ ['?']
  | .either p q => bracket true (p.sourceChars ++ '|' :: q.sourceChars)
  | .times p least most => bracket (!p.isTight) p.sourceChars ++ countSource least most
  | .part p => '(' :: p.sourceChars ++ [')']

/-- A pattern as written, with the marks for the two ends of the text. -/
def source (p : Pattern) : String :=
  String.ofList ('^' :: p.sourceChars ++ ['$'])

end Pattern

end FormCheck
