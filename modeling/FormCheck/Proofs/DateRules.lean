import FormCheck.Proofs.BuiltRules
import FormCheck.Proofs.GregorianCalendar
import FormCheck.Proofs.WrittenDates

namespace FormCheck

open Text (decimal)

namespace Date

variable {p : Parts}

theorem DigitRun.year?_eq {s : String} (hs : DigitRun 4 s) :
    year? s = some (decimal s.toList : Int) := by
  have hlt := hs.decimal_lt
  have hspells := Text.spellsNat_decimal (hs.isNumeral (by decide))
  refine year?_eq_some_iff.mpr ⟨.nat hspells, ?_⟩
  unfold leastYear greatestYear
  omega

theorem Parts.inCalendar_iff (h : p.Digital) :
    p.inCalendar = true ↔
      (1 ≤ decimal p.month.toList ∧ decimal p.month.toList ≤ 12) ∧ 1 ≤ decimal p.day.toList ∧
        decimal p.day.toList ≤ lastDay (decimal p.year.toList) (decimal p.month.toList) := by
  have hyear := h.year.decimal_lt
  simp only [Parts.inCalendar, h.year.year?_eq, h.month.number?_eq, h.day.number?_eq, isDate_iff]
  unfold firstYear lastYear
  omega

/-- The last day that a check of dates allows for the month and the year. -/
def lastAllowedDay (check : DateCheck) (year month : Nat) : Nat :=
  match check with
  | .range => 31
  | .calendar => lastDay year month

/-- Parts of a date that a check allows, said of the numbers that they spell. -/
structure Parts.Allowed (check : DateCheck) (p : Parts) : Prop where
  digital : p.Digital
  month : 1 ≤ decimal p.month.toList ∧ decimal p.month.toList ≤ 12
  day : 1 ≤ decimal p.day.toList ∧
    decimal p.day.toList ≤ lastAllowedDay check (decimal p.year.toList) (decimal p.month.toList)

theorem Parts.Allowed.range {check : DateCheck} (h : p.Allowed check) : p.Allowed .range := by
  refine ⟨h.digital, h.month, h.day.1, h.day.2.trans ?_⟩
  cases check with
  | range => exact le_rfl
  | calendar => exact lastDay_le _ _

theorem Parts.allowed_iff {check : DateCheck} :
    p.Allowed check ↔ p.Digital ∧ (p.inRange && (check == .range || p.inCalendar)) = true := by
  constructor
  · intro h
    have hinRange := (Parts.inRange_iff h.digital.month h.digital.day).mpr ⟨h.month, h.range.day⟩
    rw [hinRange, Bool.true_and]
    cases check with
    | range => exact ⟨h.digital, rfl⟩
    | calendar => exact ⟨h.digital, (Parts.inCalendar_iff h.digital).mpr ⟨h.month, h.day⟩⟩
  · rintro ⟨h, hpasses⟩
    obtain ⟨hinRange, hcheck⟩ := Bool.and_eq_true_iff.mp hpasses
    obtain ⟨hmonth, hday⟩ := (Parts.inRange_iff h.month h.day).mp hinRange
    cases check with
    | range => exact ⟨h, hmonth, hday⟩
    | calendar => exact ⟨h, hmonth, ((Parts.inCalendar_iff h).mp hcheck).2⟩

instance {check : DateCheck} : Decidable (p.Allowed check) :=
  decidable_of_iff _ Parts.allowed_iff.symm

end Date

namespace Profile

open Date (Parts)
open Log (Logged)

variable {profile : Profile} {value : String}

theorem isDate_iff :
    profile.isDate value = true ↔
      ∃ p : Parts, p.Allowed profile.dateCheck ∧ (value = p.yearFirst ∨ value = p.monthFirst) := by
  rw [isDate, Option.any_eq_true]
  constructor
  · rintro ⟨p, hp, hpasses⟩
    obtain ⟨hdigital, hspelled⟩ := Date.ofText?_eq_some_iff.mp hp
    exact ⟨p, Parts.allowed_iff.mpr ⟨hdigital, hpasses⟩, hspelled⟩
  · rintro ⟨p, hallowed, hspelled⟩
    exact ⟨p, Date.ofText?_eq_some_iff.mpr ⟨hallowed.digital, hspelled⟩,
      (Parts.allowed_iff.mp hallowed).2⟩

theorem run_dateRule_eq_nil_iff (profile : Profile) (required : Bool) (args : Option Arguments)
    (value : String) (context : Context) :
    ((profile.ruleOf .date required args).run value context).value = [] ↔
      ∃ p : Parts, p.Allowed profile.dateCheck ∧ (value = p.yearFirst ∨ value = p.monthFirst) := by
  rw [← isDate_iff]
  exact run_testRule_eq_nil_iff profile .date required .none _ value context

/-- The rule for dates accepts a text exactly when it spells, in one of the two ways, a year of four
digits and a month and a day of two, the month is one of the twelve, and the day is no later than
the thirty-first, or than the last of that month where the calendar is checked. Both spellings are
read as the same parts and get the same answer, and what any such rule accepts is accepted where the
calendar is not checked. -/
theorem date_rule_accepts_iff (profile : Profile) (options : RuleOptions) :
    ∃ rule entries, profile.build .date options = .ok ⟨[rule], entries⟩ ∧
      (∀ value context, (rule.run value context).value = [] ↔
        ∃ p : Parts, p.Allowed profile.dateCheck ∧ (value = p.yearFirst ∨ value = p.monthFirst)) ∧
      (∀ p : Parts, p.Digital → Parts.ofText? p.yearFirst = some p ∧
        Parts.ofText? p.monthFirst = some p ∧
          ∀ context context', rule.run p.yearFirst context = rule.run p.monthFirst context') ∧
      ∀ other : Profile, other.dateCheck = .range → ∀ options' rule' entries',
        other.build .date options' = .ok ⟨[rule'], entries'⟩ → ∀ value context context',
          (rule.run value context).value = [] → (rule'.run value context').value = [] := by
  have hkind : Kind.date.arity = 0 := rfl
  obtain ⟨entries, hbuild⟩ := build_of_arity_eq_zero profile hkind options
  refine ⟨_, entries, hbuild, run_dateRule_eq_nil_iff profile options.required none, ?_, ?_⟩
  · intro p hp
    have hyearFirst := hp.ofText?_yearFirst
    have hmonthFirst := hp.ofText?_monthFirst
    refine ⟨hyearFirst, hmonthFirst, run_testRule_congr profile .date options.required .none ?_⟩
    rw [isDate, isDate, hyearFirst, hmonthFirst]
  · intro other hother options' rule' entries' hbuild' value context context' haccepts
    obtain ⟨args, hargs⟩ := value_of_build hbuild'
    rw [List.singleton_inj.mp hargs, run_dateRule_eq_nil_iff, hother]
    obtain ⟨p, hallowed, hspelled⟩ :=
      (run_dateRule_eq_nil_iff profile options.required none value context).mp haccepts
    exact ⟨p, hallowed.range, hspelled⟩

theorem date_rule_leap_centuries :
    ∃ rule entries, Profile.build ⟨.enUS, .lenient, .calendar⟩ .date {} = .ok ⟨[rule], entries⟩ ∧
      (rule.run "02/29/2000" {}).value = [] ∧ (rule.run "0000-02-29" {}).value = [] ∧
        (rule.run "1900-02-29" {}).value ≠ [] := by
  obtain ⟨rule, entries, hbuild, haccepts, -, -⟩ :=
    date_rule_accepts_iff ⟨.enUS, .lenient, .calendar⟩ {}
  refine ⟨rule, entries, hbuild, (haccepts _ _).mpr ?_, (haccepts _ _).mpr ?_, fun hnil => ?_⟩
  · exact ⟨⟨"2000", "02", "29"⟩, by decide, .inr (by decide)⟩
  · exact ⟨⟨"0000", "02", "29"⟩, by decide, .inl (by decide)⟩
  · obtain ⟨p, hallowed, hspelled⟩ := (haccepts _ _).mp hnil
    have hread := Date.ofText?_eq_some_iff.mpr ⟨hallowed.digital, hspelled⟩
    have hparts : Parts.ofText? "1900-02-29" = some ⟨"1900", "02", "29"⟩ := by decide
    rw [hparts, Option.some.injEq] at hread
    subst hread
    exact absurd hallowed (by decide)

end Profile

end FormCheck
