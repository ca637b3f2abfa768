import FormCheck.Decimal.Shortest
import FormCheck.Json.Basic

namespace FormCheck.Json

/-- The most digits before the point of a numeral without an exponent. -/
def maxWholePlaces : Nat := 16

/-- The most zeros between the point and the first other digit of a numeral without an exponent. -/
def maxLeadingZeros : Nat := 4

/-- A numeral with its point: positional from `10 ^ -5` up to below `10 ^ 16`, with one digit before
the point and an exponent with its sign elsewhere. -/
def numeralText (n : Decimal.Numeral) : String :=
  let digits := Nat.toDigits 10 n.digits
  let point : Int := digits.length + n.exponent
  if 0 ≤ n.exponent && point ≤ maxWholePlaces then
    String.ofList (digits ++ List.replicate n.exponent.toNat '0') ++ ".0"
  else if 0 < point && point ≤ maxWholePlaces then
    String.ofList (digits.take point.toNat) ++ "." ++ String.ofList (digits.drop point.toNat)
  else if point ≤ 0 && -point ≤ maxLeadingZeros then
    "0." ++ String.ofList (List.replicate (-point).toNat '0' ++ digits)
  else
    let mantissa := if digits.length = 1 then digits else digits.take 1 ++ '.' :: digits.drop 1
    let mark := if 0 < point then "e+" else "e"
    String.ofList mantissa ++ mark ++ toString (point - 1)

/-- A floating-point number with the fewest digits that read back, and with a point or an exponent
in any case. -/
def floatText (bits : UInt64) : String :=
  let sign := if bits.toNat < Decimal.signBit then "" else "-"
  sign ++ (if bits.toNat % Decimal.signBit = 0 then "0.0" else numeralText (Decimal.shortest bits))

/-- A character inside of a string. Quotes, backslashes and the controls below U+0020 are escaped,
and nothing else. -/
def escaped (c : Char) : List Char :=
  if c = '"' then ['\\', '"']
  else if c = '\\' then ['\\', '\\']
  else if c.toNat = 8 then ['\\', 'b']
  else if c.toNat = 9 then ['\\', 't']
  else if c.toNat = 10 then ['\\', 'n']
  else if c.toNat = 12 then ['\\', 'f']
  else if c.toNat = 13 then ['\\', 'r']
  else if c.toNat < 0x20 then
    ['\\', 'u', '0', '0'] ++
      [Nat.digitChar (c.toNat / 16), Nat.digitChar (c.toNat % 16)]
  else [c]

def stringText (s : String) : String :=
  String.ofList ('"' :: s.toList.flatMap escaped ++ ['"'])

/-- The JSON text of a value, without any blanks. -/
def print : Json → String
  | .null => "null"
  | .bool true => "true"
  | .bool false => "false"
  | .int n => toString n
  | .float bits => floatText bits
  | .str s => stringText s
  | .arr items => "[" ++ ",".intercalate (printItems items) ++ "]"
  | .obj fields => "\x7b" ++ ",".intercalate (printFields fields) ++ "\x7d"
where
  printItems : List Json → List String
    | [] => []
    | item :: items => print item :: printItems items
  printFields : List (String × Json) → List String
    | [] => []
    | (name, value) :: fields =>
      (stringText name ++ ":" ++ print value) :: printFields fields

end FormCheck.Json
