import FormCheck.Json.Basic
import FormCheck.Pattern.Named
import FormCheck.Text.Bytes
import FormCheck.Text.Digits

namespace FormCheck.IdentityNumber

open Pattern (inTurn exactly word just digit)
open Pattern.SetItem (char span)
open Text (isDigit digitValue)

/-- What each of the seventeen digits counts in the weighted sum of the system MOD 11-2. -/
def weights : List Nat :=
  [7, 9, 10, 5, 8, 4, 2, 1, 6, 3, 7, 9, 10, 5, 8, 4, 2]

/-- The check characters in the order of the remainders that they stand for. -/
def checkCodes : List Char :=
  ['1', '0', 'X', '9', '8', '7', '6', '5', '4', '3', '2']

/-- The sum of digits, each times its weight, on top of the sum of those before. A character that
is no digit has none; characters beyond the last weight are not read. -/
def weightedSum? (sum : Nat) : List Char → List Nat → Option Nat
  | c :: rest, weight :: weights =>
    if isDigit c then weightedSum? (sum + digitValue c * weight) rest weights else none
  | _, _ => some sum

theorem mod_lt_length_checkCodes (sum : Nat) : sum % 11 < checkCodes.length :=
  Nat.mod_lt sum (by decide)

/-- The check character that belongs to seventeen digits. Any other text has none. The length is
told in bytes. -/
def checkCharacter? (body : List Char) : Option Char :=
  if Text.byteLength body = weights.length then
    (weightedSum? 0 body weights).map fun sum =>
      checkCodes.get ⟨sum % 11, mod_lt_length_checkCodes sum⟩
  else none

def nonzeroDigit : Pattern := .one (.among [span '1' '9'])

/-- A year from 1900 to 2099. -/
def birthYear : Pattern :=
  .either (.seq (word "19") (exactly 2 digit)) (.seq (word "20") (exactly 2 digit))

/-- A month in two digits, from 01 to 12. -/
def birthMonth : Pattern :=
  .either (.seq (just '0') nonzeroDigit)
    (.seq (just '1') (.one (.among [char '0', char '1', char '2'])))

/-- A day in two digits, from 01 to 31 in any month. -/
def birthDay : Pattern :=
  .either (.seq (just '0') nonzeroDigit)
    (.either (.seq (.one (.among [char '1', char '2'])) digit)
      (.seq (just '3') (.one (.among [char '0', char '1']))))

/-- The shape of an identity number: six digits for the region, eight for the date of birth, three
that count, and a check character. The check character is left unchecked, but the letter for ten is
a capital. -/
def shape : Pattern :=
  inTurn [nonzeroDigit, exactly 5 digit, .part birthYear, .part birthMonth, .part birthDay,
    exactly 3 digit, .one (.among [span '0' '9', char 'X'])]

def hasShape (s : List Char) : Bool :=
  shape.accepts s

/-- What is wrong with a value that is no identity number. -/
inductive Failure where
  | notAString
  | format
  | checksum
deriving DecidableEq, Repr

/-- What is wrong with a text as an identity number, if anything is. The check character is looked
at only where the shape is right. -/
def failure? (s : List Char) : Option Failure :=
  if hasShape s then
    match checkCharacter? (s.take 17) with
    | some expected => if (s.drop 17).head? = some expected then none else some .checksum
    | none => some .checksum
  else some .format

/-- What is wrong with a JSON value as an identity number. A number is rejected unread, since it has
lost its leading zeros. -/
def failureOfJson? (v : Json) : Option Failure :=
  match v.text? with
  | some s => failure? s.toList
  | none => some .notAString

/-- The outcome of a verdict, as other programs are told it. -/
inductive Code where
  | valid
  | invalid
deriving DecidableEq, Repr

/-- The number that other programs know an outcome by. -/
def Code.number : Code → Int
  | .valid => 1
  | .invalid => -1

/-- What is said about an identity number. The message about a valid one is empty. -/
structure Verdict where
  code : Code
  message : String
  failure : Option Failure
deriving DecidableEq, Repr

namespace Verdict

def isValid (v : Verdict) : Bool :=
  v.code == .valid

/-- The object that stands for a verdict. The failure is told by the message alone. -/
def toJson (v : Verdict) : Json :=
  Json.ofFields [("code", .int v.code.number), ("msg", .str v.message)]

end Verdict

end FormCheck.IdentityNumber
