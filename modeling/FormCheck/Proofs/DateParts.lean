import FormCheck.Date.Parts
import FormCheck.Proofs.SignedNumbers
import Mathlib.Data.List.Basic

namespace FormCheck.Date

open Text (isDigit digitValue decimal SpellsInt SpellsNat)

theorem number?_eq_some_iff {s : String} {n : Nat} :
    number? s = some n ↔ SpellsNat n s.toList ∧ n ≤ maxWord :=
  Text.readNat?_eq_some_iff

theorem year?_eq_some_iff {s : String} {year : Int} :
    year? s = some year ↔ SpellsInt year s.toList ∧ leastYear ≤ year ∧ year ≤ greatestYear :=
  Text.readInt?_eq_some_iff (by decide)

/-- A text of exactly `count` digits. -/
structure DigitRun (count : Nat) (s : String) : Prop where
  length_eq : s.toList.length = count
  isDigit : ∀ c ∈ s.toList, isDigit c = true

theorem digitRun_iff {count : Nat} {s : String} :
    DigitRun count s ↔ s.toList.length = count ∧ s.toList.all Text.isDigit = true :=
  ⟨fun h => ⟨h.length_eq, List.all_eq_true.mpr h.isDigit⟩,
    fun h => ⟨h.1, List.all_eq_true.mp h.2⟩⟩

instance {count : Nat} {s : String} : Decidable (DigitRun count s) :=
  decidable_of_iff _ digitRun_iff.symm

abbrev TwoDigits (s : String) : Prop := DigitRun 2 s

theorem DigitRun.decimal_lt {count : Nat} {s : String} (hs : DigitRun count s) :
    decimal s.toList < 10 ^ count := by
  have hlt := Text.decimal_lt_pow hs.isDigit
  rwa [hs.length_eq] at hlt

theorem DigitRun.isNumeral {count : Nat} {s : String} (hs : DigitRun count s) (hcount : count ≠ 0) :
    Text.isNumeral s.toList = true := by
  refine Text.isNumeral_iff.mpr ⟨fun h => hcount ?_, hs.isDigit⟩
  rw [← hs.length_eq, h]
  rfl

theorem TwoDigits.number?_eq {s : String} (hs : TwoDigits s) :
    number? s = some (decimal s.toList) := by
  have hlt := hs.decimal_lt
  have hspells := Text.spellsNat_decimal (hs.isNumeral (by decide))
  exact number?_eq_some_iff.mpr ⟨hspells, by unfold maxWord; omega⟩

theorem TwoDigits.decimal_eq_zero_iff {s : String} (hs : TwoDigits s) :
    decimal s.toList = 0 ↔ s = "00" := by
  constructor
  · intro h
    obtain ⟨a, b, hab⟩ := List.length_eq_two.mp hs.length_eq
    have ha := hs.isDigit a (by simp [hab])
    have hb := hs.isDigit b (by simp [hab])
    rw [hab, Text.decimal_two] at h
    have hvalue : digitValue '0' = 0 := rfl
    have haZero : a = '0' := Text.eq_of_digitValue_eq ha (by decide) (by omega)
    have hbZero : b = '0' := Text.eq_of_digitValue_eq hb (by decide) (by omega)
    apply String.toList_injective
    rw [hab, haZero, hbZero]
    rfl
  · rintro rfl
    rfl

theorem Parts.inRange_iff {p : Parts} (hmonth : TwoDigits p.month) (hday : TwoDigits p.day) :
    p.inRange = true ↔ (1 ≤ decimal p.month.toList ∧ decimal p.month.toList ≤ 12) ∧
      (1 ≤ decimal p.day.toList ∧ decimal p.day.toList ≤ 31) := by
  have hmonthZero := hmonth.decimal_eq_zero_iff
  have hdayZero := hday.decimal_eq_zero_iff
  simp only [Parts.inRange, hmonth.number?_eq, hday.number?_eq, Bool.and_eq_true,
    decide_eq_true_eq, bne_iff_ne, Ne, ← hmonthZero, ← hdayZero]
  omega

end FormCheck.Date
