import FormCheck.Json.Reader
import FormCheck.Toml.Value

namespace FormCheck.Toml

open Text (isDigit decimal)

/-- The digits of a numeral in which single low lines may stand between digits. -/
def digits? (p : Char → Bool) (s : List Char) : Option (List Char) :=
  let groups := Text.splitOn (· == '_') s
  if groups.all fun group => !group.isEmpty && group.all p then some groups.flatten else none

/-- The digits of a numeral, which does not start with a zero unless that is all of it. -/
def plainDigits? (s : List Char) : Option (List Char) := do
  let digits ← digits? isDigit s
  if digits.length = 1 ∨ digits.head? ≠ some '0' then some digits else none

/-- The sign of a numeral, and what follows it. Without a sign a numeral is positive. -/
def splitSign : List Char → Bool × List Char
  | '-' :: rest => (true, rest)
  | '+' :: rest => (false, rest)
  | s => (false, s)

/-- The number that digits spell in a base of at most sixteen. -/
def inBase (base : Nat) (digits : List Char) : Nat :=
  digits.foldl (fun n c => base * n + (Json.hexValue? c).getD 0) 0

/-- The digits of a base, with letters of either case. -/
def isBaseDigit (base : Nat) (c : Char) : Bool :=
  (Json.hexValue? c).any (· < base)

/-- An integer in another base, without the mark for that base. -/
def basedInteger? (base : Nat) (s : List Char) : Option Value := do
  let digits ← digits? (isBaseDigit base) s
  some (.integer (inBase base digits))

/-- The exponent of a number, which may have a sign and zeros in front. -/
def exponent? (s : List Char) : Option Int := do
  let (negative, rest) := splitSign s
  let digits ← digits? isDigit rest
  some (if negative then -(decimal digits : Int) else decimal digits)

def isExponentStart (c : Char) : Bool :=
  c == 'e' || c == 'E'

/-- A number with a point, an exponent or both. Digits have to stand on both sides of the point. -/
def float? (negative : Bool) (s : List Char) : Option Value := do
  let mantissa := s.takeWhile fun c => !isExponentStart c
  let exponent ←
    match s.dropWhile fun c => !isExponentStart c with
    | [] => some 0
    | _ :: rest => exponent? rest
  let whole ← plainDigits? (mantissa.takeWhile (· != '.'))
  let fraction ←
    match mantissa.dropWhile (· != '.') with
    | [] => some []
    | _ :: rest => digits? isDigit rest
  some (.decimal negative (decimal (whole ++ fraction)) (exponent - fraction.length))

/-- A number of base ten. One without point and exponent is an integer. -/
def number? (s : List Char) : Option Value :=
  let (negative, rest) := splitSign s
  if rest = "inf".toList ∨ rest = "nan".toList then some .nonNumber
  else if rest.any fun c => c == '.' || isExponentStart c then float? negative rest
  else do
    let digits ← plainDigits? rest
    some (.integer (if negative then -(decimal digits : Int) else decimal digits))

/-- The value that a word without quotes stands for: a truth value, a number, a date or a time. -/
def scalar? (s : List Char) : Option Value :=
  match s with
  | '0' :: 'x' :: rest => basedInteger? 16 rest
  | '0' :: 'o' :: rest => basedInteger? 8 rest
  | '0' :: 'b' :: rest => basedInteger? 2 rest
  | _ =>
    if s = "true".toList then some (.boolean true)
    else if s = "false".toList then some (.boolean false)
    else
      match moment? s with
      | some text => some (.moment text)
      | none => number? s

end FormCheck.Toml
