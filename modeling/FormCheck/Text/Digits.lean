namespace FormCheck.Text

/-- The ten ASCII digits. -/
def isDigit (c : Char) : Bool :=
  '0' ≤ c && c ≤ '9'

def digitValue (c : Char) : Nat :=
  c.toNat - '0'.toNat

/-- The number that a run of digits spells when it continues a run that spells `start`. -/
def decimalFrom (start : Nat) (s : List Char) : Nat :=
  s.foldl (fun n c => 10 * n + digitValue c) start

/-- The number that a run of digits spells, with any number of zeros in front. -/
def decimal (s : List Char) : Nat :=
  decimalFrom 0 s

@[simp] theorem decimal_nil : decimal [] = 0 := rfl

theorem decimal_concat (s : List Char) (c : Char) :
    decimal (s ++ [c]) = 10 * decimal s + digitValue c := by
  simp [decimal, decimalFrom]

/-- Whether a text is a run of digits, of which there is at least one. -/
def isNumeral (s : List Char) : Bool :=
  !s.isEmpty && s.all isDigit

/-- Reads a natural number: digits after an optional plus sign, and nothing above `limit`. -/
def readNat? (limit : Nat) (s : List Char) : Option Nat :=
  let digits := match s with
    | '+' :: rest => rest
    | _ => s
  if isNumeral digits && decimal digits ≤ limit then some (decimal digits) else none

/-- Reads a whole number: digits after an optional sign, nothing below `least` and nothing above
`limit`. -/
def readInt? (least : Int) (limit : Nat) (s : List Char) : Option Int :=
  match s with
  | '-' :: digits =>
    if isNumeral digits && least ≤ -(decimal digits : Int) then some (-(decimal digits : Int))
    else none
  | _ => (readNat? limit s).map Int.ofNat

end FormCheck.Text
