import FormCheck.Date.Calendar
import Mathlib.Tactic.IntervalCases

namespace FormCheck.Date

/-- Every fourth year, but of the full centuries only every fourth. -/
def LeapYear (year : Int) : Prop :=
  4 ∣ year ∧ (100 ∣ year → 400 ∣ year)

instance : DecidablePred LeapYear := fun _ => inferInstanceAs (Decidable (_ ∧ _))

/-- The lengths of the months of a year, from January on. -/
def monthLengths (year : Int) : List Nat :=
  [31, if LeapYear year then 29 else 28, 31, 30, 31, 30, 31, 31, 30, 31, 30, 31]

/-- The last day of a month, when January is month one. -/
def lastDay (year : Int) (month : Nat) : Nat :=
  (monthLengths year).getD (month - 1) 0

variable {year : Int} {month day : Nat}

theorem isLeapYear_iff : isLeapYear year = true ↔ LeapYear year := by
  simp only [isLeapYear, LeapYear, Bool.and_eq_true, Bool.or_eq_true, beq_iff_eq, bne_iff_ne]
  omega

theorem daysInMonth_eq_lastDay (hfirst : 1 ≤ month) (hlast : month ≤ 12) :
    daysInMonth year month = lastDay year month := by
  have hleap : (if isLeapYear year = true then 29 else 28) =
      if LeapYear year then 29 else 28 := by
    simp only [isLeapYear_iff]
  interval_cases month <;> first | rfl | exact hleap

theorem daysInMonth_eq_zero (h : ¬(1 ≤ month ∧ month ≤ 12)) : daysInMonth year month = 0 := by
  simp only [daysInMonth, List.mem_cons, List.not_mem_nil, or_false]
  split_ifs <;> omega

theorem lastDay_le (year : Int) (month : Nat) : lastDay year month ≤ 31 := by
  have hlengths : ∀ length ∈ monthLengths year, length ≤ 31 := by
    unfold monthLengths
    split <;> decide
  rw [lastDay, List.getD_eq_getElem?_getD]
  cases hlength : (monthLengths year)[month - 1]? with
  | none => exact Nat.zero_le 31
  | some length => exact hlengths length (List.mem_of_getElem? hlength)

theorem isDate_iff :
    isDate year month day = true ↔ (firstYear ≤ year ∧ year ≤ lastYear) ∧
      (1 ≤ month ∧ month ≤ 12) ∧ 1 ≤ day ∧ day ≤ lastDay year month := by
  simp only [isDate, Bool.and_eq_true, decide_eq_true_eq, and_assoc]
  by_cases hmonth : 1 ≤ month ∧ month ≤ 12
  · rw [daysInMonth_eq_lastDay hmonth.1 hmonth.2]
    simp [hmonth]
  · rw [daysInMonth_eq_zero hmonth]
    omega

/-- The calendar repeats itself after four hundred years, which are whole weeks. -/
example : ((List.range 400).map fun year : Nat => (monthLengths year).sum).sum = 20871 * 7 := by
  decide +kernel

end FormCheck.Date
