namespace FormCheck.Date

/-- Leap years of the Gregorian calendar, extended to all years before its introduction. -/
def isLeapYear (year : Int) : Bool :=
  year % 4 == 0 && (year % 100 != 0 || year % 400 == 0)

/-- The number of days of a month, `0` for a number that is no month. -/
def daysInMonth (year : Int) (month : Nat) : Nat :=
  if month ∈ [1, 3, 5, 7, 8, 10, 12] then 31
  else if month ∈ [4, 6, 9, 11] then 30
  else if month = 2 then (if isLeapYear year then 29 else 28)
  else 0

/-- The earliest year that the calendar reaches back to. -/
def firstYear : Int := -262143

/-- The latest year that the calendar reaches. -/
def lastYear : Int := 262142

/-- Whether the calendar has a date of this year, month and day. -/
def isDate (year : Int) (month day : Nat) : Bool :=
  firstYear ≤ year && year ≤ lastYear && 1 ≤ day && day ≤ daysInMonth year month

end FormCheck.Date
