import FormCheck.Bounds
import FormCheck.Kind
import FormCheck.Text.Digits
import FormCheck.Text.Quoted
import FormCheck.Text.Split

/-!
The numbers that a rule is given: a text such as `maxLength:20` or `rangeLength:3,10`, which names
the kind of the rule and then its numbers.

A number may have any count of digits. One that is too large is either refused or clipped to the
largest; reading goes from left to right and stops at the first number that is refused.
-/

namespace FormCheck

/-- The numbers of a rule, which has one limit or the two ends of a range. -/
inductive Arguments where
  | one (n : Nat)
  | two (a b : Nat)
deriving DecidableEq, Repr

/-- Why no numbers were taken from a rules text: the kind takes none, the text has another form, or
a number is too large. -/
inductive ArgumentsError where
  | notParameterised (kind : Kind)
  | malformed (kind : Kind) (rules : String)
  | overflow (kind : Kind) (rules : String)
deriving DecidableEq, Repr

/-- What becomes of a number above the largest: the text is refused, or the largest stands for
it. -/
inductive Oversize where
  | refuse
  | clip
deriving DecidableEq, Repr

namespace Arguments

/-- The largest number that fits an unsigned word of 64 bits. -/
def largest : Nat := 18446744073709551615

/-- The number that is written first, which in a range need not be the smaller one. -/
def first : Arguments → Nat
  | .one n => n
  | .two a _ => a

/-- The interval between the numbers; a single number is both of its ends. -/
def bounds : Arguments → Bounds
  | .one n => .sorted n n
  | .two a b => .sorted a b

/-- The numbers in the order in which they are written. -/
def toList : Arguments → List Nat
  | .one n => [n]
  | .two a b => [a, b]

/-- What is wrong with one piece of a rules text. -/
inductive Defect where
  | notANumeral
  | tooLarge
deriving DecidableEq, Repr

/-- Reads one piece. Digits and nothing else make a numeral, and there may be any number of them. -/
def readNumber (oversize : Oversize) (s : List Char) : Except Defect Nat :=
  if !Text.isNumeral s then .error .notANumeral
  else if Text.decimal s ≤ largest then .ok (Text.decimal s)
  else
    match oversize with
    | .refuse => .error .tooLarge
    | .clip => .ok largest

/-- Reads pieces from left to right, up to the first one that is refused. -/
def readNumbers (oversize : Oversize) : List (List Char) → Except Defect (List Nat)
  | [] => .ok []
  | piece :: pieces => do
    let n ← readNumber oversize piece
    let ns ← readNumbers oversize pieces
    pure (n :: ns)

/-- The error about a rules text with a piece of this defect. It holds the whole text. -/
def Defect.error (kind : Kind) (rules : String) : Defect → ArgumentsError
  | .notANumeral => .malformed kind rules
  | .tooLarge => .overflow kind rules

/-- Puts numbers together, if they are as many as the kind takes. -/
def ofNumbers (kind : Kind) (rules : String) : List Nat → Except ArgumentsError Arguments
  | [n] => if kind.arity = 1 then .ok (.one n) else .error (.malformed kind rules)
  | [a, b] => if kind.arity = 2 then .ok (.two a b) else .error (.malformed kind rules)
  | _ => .error (.malformed kind rules)

/-- Reads the numbers of a rule: the name of the kind, a colon and the numbers with commas between
them, and nothing else. -/
def read (oversize : Oversize) (kind : Kind) (rules : String) :
    Except ArgumentsError Arguments :=
  if kind.arity = 0 then .error (.notParameterised kind)
  else
    match Text.dropStart? (kind.name.toList ++ [':']) rules.toList with
    | none => .error (.malformed kind rules)
    | some body =>
      match readNumbers oversize (Text.splitOn (· == ',') body) with
      | .error defect => .error (defect.error kind rules)
      | .ok numbers => ofNumbers kind rules numbers

end Arguments

namespace ArgumentsError

/-- The numbers of a kind as errors show what they expect. -/
def shape (kind : Kind) : String :=
  if kind.arity = 1 then "<n>" else "<a>,<b>"

/-- The text of the error. The rules text is quoted, so that the error stays on one line. -/
def message : ArgumentsError → String
  | .notParameterised kind => "`" ++ kind.name ++ "` takes no rules string arguments"
  | .malformed kind rules =>
    "rules string " ++ Text.quoted rules ++ " does not match `" ++ kind.name ++ ":" ++ shape kind ++
      "`"
  | .overflow kind rules =>
    "rules string " ++ Text.quoted rules ++ " has an argument too large for `" ++ kind.name ++ "`"

end ArgumentsError

end FormCheck
