import FormCheck.Json.Basic
import FormCheck.Text.Digits

/-!
Numbers as JSON text writes them, and the values they stand for.

A whole number that fits 64 bits is kept exactly. Every other number becomes a binary
floating-point number: the leading digits that fit an unsigned 64-bit word form its significand,
digits after those count as places only, and the significand is then multiplied or divided by a
power of ten once. A number too large for that has no value.
-/

namespace FormCheck.Json

open Text (digitValue)

/-- A number in the parts that JSON text writes it in. -/
structure Numeral where
  negative : Bool
  whole : List Char
  fraction : List Char
  exponent : Option Int

/-- The largest number that fits an unsigned word of 64 bits. -/
def maxSignificand : Nat := 18446744073709551615

/-- The magnitude of the smallest number that fits a signed word of 64 bits. -/
def maxNegative : Nat := 9223372036854775808

/-- Appends digits to a significand for as long as it stays within 64 bits, and gives the digits
that are left over. -/
def gather (significand : Nat) : List Char → Nat × List Char
  | [] => (significand, [])
  | c :: rest =>
    if 10 * significand + digitValue c ≤ maxSignificand then
      gather (10 * significand + digitValue c) rest
    else (significand, c :: rest)

/-- The largest power of ten that a double holds. -/
def maxTenPower : Nat := 308

/-- Divides by a power of ten, in steps that a double can hold. -/
def divideByTen (f : Float) (places : Nat) : Float :=
  if places ≤ maxTenPower then f / Float.ofScientific 1 false places
  else if f == 0 then f
  else divideByTen (f / Float.ofScientific 1 false maxTenPower) (places - maxTenPower)
termination_by places
decreasing_by simp only [maxTenPower] at *; omega

/-- A significand times a power of ten. There is none where a double cannot hold it. -/
def scaled? (significand : Nat) (exponent : Int) : Option Float :=
  let f := significand.toUInt64.toFloat
  if exponent < 0 then some (divideByTen f exponent.natAbs)
  else if exponent ≤ maxTenPower then
    let g := f * Float.ofScientific 1 false exponent.toNat
    if g.isInf then none else some g
  else if significand = 0 then some f
  else none

def ofFloat (negative : Bool) (f : Float) : Json :=
  .float (if negative then -f else f).toBits

/-- The value of a number as written. Minus zero is a floating-point number, and so are whole
numbers beyond the 64-bit words. -/
def Numeral.value? (n : Numeral) : Option Json :=
  let (leading, dropped) := gather 0 n.whole
  if n.fraction.isEmpty && n.exponent.isNone && dropped.isEmpty then
    if !n.negative then some (.int leading)
    else if 0 < leading && leading ≤ maxNegative then some (.int (-leading))
    else some (ofFloat true leading.toUInt64.toFloat)
  else
    let (significand, left) := gather leading n.fraction
    let places : Int := dropped.length - (n.fraction.length - left.length : Nat)
    (scaled? significand (places + n.exponent.getD 0)).map (ofFloat n.negative)

end FormCheck.Json
