import FormCheck.Date.Calendar
import FormCheck.Text.Digits
import FormCheck.Text.Split

namespace FormCheck.Toml

open Text (isDigit decimal)

/-- The number that a text of exactly `n` digits spells. -/
def fixedNumber? (n : Nat) (s : List Char) : Option Nat :=
  if s.length = n ∧ s.all isDigit then some (decimal s) else none

/-- A date that the calendar has, `yyyy-mm-dd`, as it is written. -/
def date? (s : List Char) : Option (List Char) :=
  match Text.splitOn (· == '-') s with
  | [y, m, d] => do
    let year ← fixedNumber? 4 y
    let month ← fixedNumber? 2 m
    let day ← fixedNumber? 2 d
    if Date.isDate year month day then some s else none
  | _ => none

/-- The digits of a fraction of a second that are kept. Those behind them are dropped. -/
def fractionDigits : Nat := 9

/-- A fraction of a second with its point, and without zeros at its end. A fraction of nothing is
left out. -/
def fraction? (s : List Char) : Option (List Char) :=
  if Text.isNumeral s then
    let kept := ((s.take fractionDigits).reverse.dropWhile (· == '0')).reverse
    some (if kept.isEmpty then [] else '.' :: kept)
  else none

/-- Whether two texts spell an hour and a minute of a day. -/
def isDayMinute (h m : List Char) : Bool :=
  (fixedNumber? 2 h).any (· ≤ 23) && (fixedNumber? 2 m).any (· ≤ 59)

/-- A time of day, `hh:mm` or `hh:mm:ss`. Only seconds have a fraction, and a minute may have a leap
second. -/
def time? (s : List Char) : Option (List Char) :=
  let clock := s.takeWhile (· != '.')
  match Text.splitOn (· == ':') clock, s.dropWhile (· != '.') with
  | [h, m], [] => if isDayMinute h m then some (s ++ ":00".toList) else none
  | [h, m, second], fraction =>
    if isDayMinute h m && (fixedNumber? 2 second).any (· ≤ 60) then
      match fraction with
      | [] => some clock
      | _ :: digits => (fraction? digits).map (clock ++ ·)
    else none
  | _, _ => none

/-- The distance from universal time, `hh:mm` behind a sign. A distance of nothing is written with
a plus sign. -/
def offset? (sign : Char) (s : List Char) : Option (List Char) :=
  match Text.splitOn (· == ':') s with
  | [h, m] =>
    if isDayMinute h m then
      some ((if s = "00:00".toList then '+' else sign) :: s)
    else none
  | _ => none

/-- The characters at which the time of day ends and its distance from universal time begins. -/
def isOffsetStart (c : Char) : Bool :=
  c == 'Z' || c == 'z' || c == '+' || c == '-'

/-- A time of day, with its distance from universal time if that is given. -/
def offsetTime? (s : List Char) : Option (List Char) := do
  let time ← time? (s.takeWhile fun c => !isOffsetStart c)
  match s.dropWhile fun c => !isOffsetStart c with
  | [] => some time
  | c :: rest =>
    if c = 'Z' ∨ c = 'z' then
      if rest = [] then some (time ++ ['Z']) else none
    else (offset? c rest).map (time ++ ·)

/-- A date, a time of day, or both, in the one spelling in which they are passed on: a capital `T`
between date and time, seconds always, a capital `Z` for universal time, and no zeros at the end of
a fraction. -/
def moment? (s : List Char) : Option (List Char) :=
  match s[10]? with
  | none => (date? s).or (time? s)
  | some c =>
    if c = 'T' ∨ c = 't' ∨ c = ' ' then do
      let date ← date? (s.take 10)
      let time ← offsetTime? (s.drop 11)
      some (date ++ 'T' :: time)
    else time? s

end FormCheck.Toml
