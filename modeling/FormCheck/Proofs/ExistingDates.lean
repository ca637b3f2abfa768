import FormCheck.Proofs.GregorianCalendar
import FormCheck.Proofs.WrittenDates

namespace FormCheck.Date

open Text (SpellsInt SpellsNat)

variable {p : Parts} {s : String}

/-- The three texts spell these numbers, which need not be those of a date. -/
structure Parts.Spells (p : Parts) (year : Int) (month day : Nat) : Prop where
  year : SpellsInt year p.year.toList
  month : SpellsNat month p.month.toList
  day : SpellsNat day p.day.toList

theorem Parts.inCalendar_iff_exists :
    p.inCalendar = true ↔
      ∃ year month day, p.Spells year month day ∧ isDate year month day = true := by
  constructor
  · intro h
    unfold Parts.inCalendar at h
    split at h
    · rename_i year month day hyear hmonth hday
      have hspells : p.Spells year month day :=
        ⟨(year?_eq_some_iff.mp hyear).1, (number?_eq_some_iff.mp hmonth).1,
          (number?_eq_some_iff.mp hday).1⟩
      exact ⟨year, month, day, hspells, h⟩
    · cases h
  · rintro ⟨year, month, day, hspells, hdate⟩
    obtain ⟨hbounds, ⟨-, hmonthLast⟩, -, hdayLast⟩ := isDate_iff.mp hdate
    have hlast := lastDay_le year month
    have hyear : year? p.year = some year := by
      refine year?_eq_some_iff.mpr ⟨hspells.year, ?_⟩
      unfold firstYear lastYear at hbounds
      unfold leastYear greatestYear
      omega
    have hmonth : number? p.month = some month :=
      number?_eq_some_iff.mpr ⟨hspells.month, by unfold maxWord; omega⟩
    have hday : number? p.day = some day :=
      number?_eq_some_iff.mpr ⟨hspells.day, by unfold maxWord; omega⟩
    simp only [Parts.inCalendar, hyear, hmonth, hday]
    exact hdate

theorem Parts.inRange_iff_exists :
    p.inRange = true ↔
      ∃ month day, SpellsNat month p.month.toList ∧ SpellsNat day p.day.toList ∧
        (month ≤ 12 ∧ day ≤ 31) ∧ p.month ≠ "00" ∧ p.day ≠ "00" := by
  constructor
  · intro h
    unfold Parts.inRange at h
    split at h
    · rename_i month day hmonth hday
      simp only [Bool.and_eq_true, decide_eq_true_eq, bne_iff_ne] at h
      obtain ⟨⟨hbounds, hmonthZero⟩, hdayZero⟩ := h
      exact ⟨month, day, (number?_eq_some_iff.mp hmonth).1, (number?_eq_some_iff.mp hday).1,
        hbounds, hmonthZero, hdayZero⟩
    · cases h
  · rintro ⟨month, day, hmonthSpelled, hdaySpelled, hbounds, hmonthZero, hdayZero⟩
    have hmonth : number? p.month = some month :=
      number?_eq_some_iff.mpr ⟨hmonthSpelled, by unfold maxWord; omega⟩
    have hday : number? p.day = some day :=
      number?_eq_some_iff.mpr ⟨hdaySpelled, by unfold maxWord; omega⟩
    simp [Parts.inRange, hmonth, hday, hbounds, hmonthZero, hdayZero]

/-- Of all spellings of zero only the one with two digits is out of range. -/
example :
    Parts.inRange ⟨"2024", "0", "000"⟩ = true ∧ Parts.inRange ⟨"2024", "00", "1"⟩ = false := by
  decide

theorem ne_zeros_of_spellsNat {n : Nat} (hs : SpellsNat n s.toList) (hn : 1 ≤ n) : s ≠ "00" := by
  rintro rfl
  have hzero : SpellsNat 0 "00".toList := .unsigned ⟨1, rfl⟩
  have hunique := hs.unique hzero
  omega

theorem Parts.inRange_of_inCalendar (h : p.inCalendar = true) : p.inRange = true := by
  obtain ⟨year, month, day, hspells, hdate⟩ := Parts.inCalendar_iff_exists.mp h
  obtain ⟨-, ⟨hmonthFirst, hmonthLast⟩, hdayFirst, hdayLast⟩ := isDate_iff.mp hdate
  have hday : day ≤ 31 := hdayLast.trans (lastDay_le year month)
  exact Parts.inRange_iff_exists.mpr ⟨month, day, hspells.month, hspells.day, ⟨hmonthLast, hday⟩,
    ne_zeros_of_spellsNat hspells.month hmonthFirst, ne_zeros_of_spellsNat hspells.day hdayFirst⟩

/-- Whatever texts stand for year, month and day, there is such a date exactly when they spell the
numbers of one, be it with a sign, leading zeros or both, and then it is in range. The range asks
for numbers up to 12 and 31 whose text is not two zeros. Of parts that were read of a text it asks
for one of the twelve months and one of thirty-one days. -/
theorem existing_date_in_range (p : Parts) :
    (p.inCalendar = true ↔ ∃ year month day, p.Spells year month day ∧
      (firstYear ≤ year ∧ year ≤ lastYear) ∧ (1 ≤ month ∧ month ≤ 12) ∧
        1 ≤ day ∧ day ≤ lastDay year month) ∧
    (p.inRange = true ↔ ∃ month day, SpellsNat month p.month.toList ∧ SpellsNat day p.day.toList ∧
      (month ≤ 12 ∧ day ≤ 31) ∧ p.month ≠ "00" ∧ p.day ≠ "00") ∧
    (p.inCalendar = true → p.inRange = true) ∧
    ∀ value, Parts.ofText? value = some p → ∃ month day,
      SpellsNat month p.month.toList ∧ SpellsNat day p.day.toList ∧
        (p.inRange = true ↔ (1 ≤ month ∧ month ≤ 12) ∧ 1 ≤ day ∧ day ≤ 31) := by
  refine ⟨?_, Parts.inRange_iff_exists, Parts.inRange_of_inCalendar, ?_⟩
  · simp only [Parts.inCalendar_iff_exists, isDate_iff]
  · intro value hvalue
    obtain ⟨hdigital, -⟩ := ofText?_eq_some_iff.mp hvalue
    have hmonth := Text.spellsNat_decimal (hdigital.month.isNumeral (by decide))
    have hday := Text.spellsNat_decimal (hdigital.day.isNumeral (by decide))
    exact ⟨_, _, hmonth, hday, Parts.inRange_iff hdigital.month hdigital.day⟩

theorem existing_date_in_range_of_signs :
    (Parts.inCalendar ⟨"-0004", "+2", "00000000029"⟩ = true ∧
      Parts.inRange ⟨"-0004", "+2", "00000000029"⟩ = true) ∧
    Parts.ofText? "02/30/2023" = some ⟨"2023", "02", "30"⟩ ∧
    ∃ month day, SpellsNat month "02".toList ∧ SpellsNat day "30".toList ∧
      (Parts.inRange ⟨"2023", "02", "30"⟩ = true ↔
        (1 ≤ month ∧ month ≤ 12) ∧ 1 ≤ day ∧ day ≤ 31) := by
  have hdate : Parts.inCalendar ⟨"-0004", "+2", "00000000029"⟩ = true := by decide
  have hread : Parts.ofText? "02/30/2023" = some ⟨"2023", "02", "30"⟩ := by decide
  exact ⟨⟨hdate, (existing_date_in_range _).2.2.1 hdate⟩, hread,
    (existing_date_in_range _).2.2.2 _ hread⟩

end FormCheck.Date
