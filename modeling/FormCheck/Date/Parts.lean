import FormCheck.Date.Calendar
import FormCheck.Text.Digits

namespace FormCheck.Date

open Text (isDigit readNat? readInt?)

/-- The parts of a date as they were typed into a field, not yet read as numbers. -/
structure Parts where
  year : String
  month : String
  day : String
deriving DecidableEq, Repr

/-- Cuts `yyyy-mm-dd` and `mm/dd/yyyy` into their parts, and no other text. -/
def Parts.ofChars? (s : List Char) : Option Parts :=
  match s with
  | [a, b, c, d, e, f, g, h, i, j] =>
    if [a, b, c, d, f, g, i, j].all isDigit && e == '-' && h == '-' then
      some ⟨String.ofList [a, b, c, d], String.ofList [f, g], String.ofList [i, j]⟩
    else if [a, b, d, e, g, h, i, j].all isDigit && c == '/' && f == '/' then
      some ⟨String.ofList [g, h, i, j], String.ofList [a, b], String.ofList [d, e]⟩
    else none
  | _ => none

def Parts.ofText? (value : String) : Option Parts :=
  Parts.ofChars? value.toList

/-- The largest number that fits an unsigned word of 32 bits. -/
def maxWord : Nat := 4294967295

/-- The smallest number that fits a signed word of 32 bits. -/
def leastYear : Int := -2147483648

/-- The largest number that fits a signed word of 32 bits. -/
def greatestYear : Nat := 2147483647

/-- The number that a month or a day spells. -/
def number? (s : String) : Option Nat :=
  readNat? maxWord s.toList

/-- The number that a year spells, which may be negative. -/
def year? (s : String) : Option Int :=
  readInt? leastYear greatestYear s.toList

/-- Whether the month goes up to 12 and the day up to 31, each by itself. Zero is told by its
spelling with two digits. -/
def Parts.inRange (p : Parts) : Bool :=
  match number? p.month, number? p.day with
  | some month, some day => month ≤ 12 && day ≤ 31 && p.month != "00" && p.day != "00"
  | _, _ => false

/-- Whether the three parts spell the numbers of a date that there is. -/
def Parts.inCalendar (p : Parts) : Bool :=
  match year? p.year, number? p.month, number? p.day with
  | some year, some month, some day => isDate year month day
  | _, _, _ => false

end FormCheck.Date
