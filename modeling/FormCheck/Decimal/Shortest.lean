/-!
The shortest decimal numeral of a binary floating-point number: of the decimals that read back as
the number, the one with the fewest digits, and of those the nearest.

A finite number is `significand · 2 ^ exponent`. The reals that round to it form an interval around
it, which contains its ends exactly when the significand is even. All comparisons are made on whole
numbers.
-/

namespace FormCheck.Decimal

/-- A finite binary number and the interval of reals that round to it, all counted in quarters of
`2 ^ exponent`. -/
structure Binary where
  middle : Nat
  low : Nat
  high : Nat
  closed : Bool
  /-- The binary exponent of a quarter. -/
  exponent : Int

/-- How many doubles there are between a power of two and the next one. -/
def fractionCount : Nat := 4503599627370496

/-- How many exponents the bits of a double can tell. -/
def exponentCount : Nat := 2048

/-- The bit of a double that holds its sign, as a number. -/
def signBit : Nat := fractionCount * exponentCount

/-- Reads the magnitude of a double from its bits. The interval is narrower below a power of two,
where the doubles lie closer together. -/
def Binary.ofBits (bits : UInt64) : Binary :=
  let fraction : Nat := bits.toNat % fractionCount
  let raised : Nat := bits.toNat / fractionCount % exponentCount
  let significand : Nat := if raised = 0 then fraction else fraction + fractionCount
  let exponent : Int := if raised = 0 then -1076 else (raised : Int) - 1077
  { middle := 4 * significand
    low := 4 * significand - (if fraction = 0 ∧ 1 < raised then 1 else 2)
    high := 4 * significand + 2
    closed := significand % 2 = 0
    exponent }

/-- A decimal numeral: its digits, counted in a power of ten. -/
structure Numeral where
  digits : Nat
  exponent : Int
deriving DecidableEq

/-- The multiple of `10 ^ exponent` next to the number that lies in its interval, if one does. Of
two, the nearer is taken, and the even one of two equally near. -/
def Binary.onGrid? (b : Binary) (exponent : Int) : Option Numeral :=
  let unit := Nat.pow 10 exponent.toNat * Nat.pow 2 (-b.exponent).toNat
  let scale := Nat.pow 10 (-exponent).toNat * Nat.pow 2 b.exponent.toNat
  let inside (digits : Nat) : Bool :=
    if b.closed then b.low * scale ≤ digits * unit && digits * unit ≤ b.high * scale
    else b.low * scale < digits * unit && digits * unit < b.high * scale
  let below := b.middle * scale / unit
  let left := b.middle * scale - below * unit
  let right := (below + 1) * unit - b.middle * scale
  let nearer := if left < right ∨ (left = right ∧ below % 2 = 0) then below else below + 1
  let farther := if nearer = below then below + 1 else below
  if inside nearer then some ⟨nearer, exponent⟩
  else if inside farther then some ⟨farther, exponent⟩
  else none

/-- The first hit on a number of grids, each of them ten times as fine as the one before. -/
def Binary.search (b : Binary) (exponent : Int) : Nat → Option Numeral
  | 0 => none
  | count + 1 => (b.onGrid? exponent).orElse fun _ => b.search (exponent - 1) count

/-- The shortest numeral of the magnitude of a double that is finite and not zero: the hit on the
coarsest grid that has one. No grid above `10 ^ 308` or below `10 ^ -324` is needed. -/
def shortest (bits : UInt64) : Numeral :=
  ((Binary.ofBits bits).search 308 633).getD ⟨0, 0⟩

end FormCheck.Decimal
