import FormCheck.IdentityNumber
import FormCheck.Proofs.FixedLength
import Mathlib.Data.List.Basic

namespace FormCheck.IdentityNumber

open Pattern
open Text (isDigit digitValue decimal)

/-- The `count` characters of a text behind its first `start`. -/
def slice (s : List Char) (start count : Nat) : List Char :=
  (s.drop start).take count

/-- The number that a slice of digits spells. -/
def numberAt (s : List Char) (start count : Nat) : Nat :=
  decimal (slice s start count)

/-- Seventeen digits and a digit or a capital X. The first digit is not zero, the seventh spells a
year with the three behind it, and the eleventh and the thirteenth spell a month and a day. -/
structure WellFormed (s : List Char) : Prop where
  length_eq : s.length = 18
  body : ∀ c ∈ s.take 17, isDigit c = true
  region : s.head? ≠ some '0'
  year : 1900 ≤ numberAt s 6 4 ∧ numberAt s 6 4 ≤ 2099
  month : 1 ≤ numberAt s 10 2 ∧ numberAt s 10 2 ≤ 12
  day : 1 ≤ numberAt s 12 2 ∧ numberAt s 12 2 ≤ 31
  check : ∀ c ∈ s.drop 17, isDigit c = true ∨ c = 'X'

variable {s : List Char}

theorem holdsDigits_nonzero : HoldsDigits (.among [.span '1' '9']) 1 9 :=
  holdsDigits_span (by decide) (by decide)

theorem accepts_nonzeroDigit_iff :
    Accepts nonzeroDigit s ↔ ∃ c, isDigit c = true ∧ c ≠ '0' ∧ s = [c] := by
  have hset : ∀ c, (CharSet.among [.span '1' '9']).contains c = true ↔
      isDigit c = true ∧ c ≠ '0' := by
    intro c
    have hzero := Text.eq_iff_digitValue_eq (c := c) (d := '0') (by decide)
    have hvalue : digitValue '0' = 0 := rfl
    rw [holdsDigits_nonzero, Ne, hzero, hvalue]
    constructor
    · rintro ⟨hc, hlo, -⟩
      exact ⟨hc, fun h => by omega⟩
    · rintro ⟨hc, hne⟩
      have hlt := Text.digitValue_lt hc
      have hpos : digitValue c ≠ 0 := fun h => hne ⟨hc, h⟩
      exact ⟨hc, by omega, by omega⟩
  simp only [nonzeroDigit, accepts_one_iff, hset, and_assoc]

theorem accepts_century_iff {w : String} {a b : Char} (hw : w.toList = [a, b])
    (ha : isDigit a = true) (hb : isDigit b = true) :
    Accepts (.seq (word w) (exactly 2 digit)) s ↔ s.length = 4 ∧ (∀ c ∈ s, isDigit c = true) ∧
      1000 * digitValue a + 100 * digitValue b ≤ decimal s ∧
        decimal s < 1000 * digitValue a + 100 * digitValue b + 100 := by
  simp only [accepts_word_seq_iff, accepts_exactly_digit_iff, hw]
  constructor
  · rintro ⟨rest, rfl, hlength, hdigits⟩
    obtain ⟨c, d, rfl⟩ := List.length_eq_two.mp hlength
    have hc := hdigits c (by simp)
    have hd := hdigits d (by simp)
    have hcLt := Text.digitValue_lt hc
    have hdLt := Text.digitValue_lt hd
    refine ⟨rfl, by simp [ha, hb, hc, hd], ?_⟩
    change _ ≤ decimal [a, b, c, d] ∧ decimal [a, b, c, d] < _
    rw [Text.decimal_four]
    omega
  · rintro ⟨hlength, hdigits, hrange⟩
    obtain ⟨x, y, c, d, rfl⟩ : ∃ x y c d, s = [x, y, c, d] := by
      match s, hlength with
      | [x, y, c, d], _ => exact ⟨x, y, c, d, rfl⟩
    have hx := hdigits x (by simp)
    have hy := hdigits y (by simp)
    have hc := hdigits c (by simp)
    have hd := hdigits d (by simp)
    have hyLt := Text.digitValue_lt hy
    have hcLt := Text.digitValue_lt hc
    have hdLt := Text.digitValue_lt hd
    have hbLt := Text.digitValue_lt hb
    rw [Text.decimal_four] at hrange
    have hxa : x = a := Text.eq_of_digitValue_eq hx ha (by omega)
    have hyb : y = b := Text.eq_of_digitValue_eq hy hb (by subst hxa; omega)
    exact ⟨[c, d], by rw [hxa, hyb]; rfl, rfl, by simp [hc, hd]⟩

theorem accepts_birthYear_iff :
    Accepts birthYear s ↔ s.length = 4 ∧ (∀ c ∈ s, isDigit c = true) ∧
      1900 ≤ decimal s ∧ decimal s ≤ 2099 := by
  have hvalues : digitValue '1' = 1 ∧ digitValue '9' = 9 ∧ digitValue '2' = 2 ∧
    digitValue '0' = 0 := by decide
  simp only [birthYear, accepts_either_iff,
    accepts_century_iff (w := "19") rfl (a := '1') (b := '9') (by decide) (by decide),
    accepts_century_iff (w := "20") rfl (a := '2') (b := '0') (by decide) (by decide), hvalues]
  constructor
  · rintro (⟨hlength, hdigits, hrange⟩ | ⟨hlength, hdigits, hrange⟩) <;>
    exact ⟨hlength, hdigits, by omega⟩
  · rintro ⟨hlength, hdigits, hrange⟩
    by_cases h : decimal s < 2000
    · exact .inl ⟨hlength, hdigits, by omega⟩
    · exact .inr ⟨hlength, hdigits, by omega⟩

theorem accepts_birthMonth_iff :
    Accepts birthMonth s ↔ s.length = 2 ∧ (∀ c ∈ s, isDigit c = true) ∧
      1 ≤ decimal s ∧ decimal s ≤ 12 := by
  have hlate : HoldsDigits (.among [.char '0', .char '1', .char '2']) 0 2 :=
    ((holdsDigits_char (d := '2') (by decide)).cons (d := '1') (by decide) rfl le_rfl).cons
      (d := '0') (by decide) rfl (by decide)
  simp only [birthMonth, accepts_either_iff, just, nonzeroDigit,
    accepts_two_digits_iff (holdsDigits_just (d := '0') (by decide)) holdsDigits_nonzero,
    accepts_two_digits_iff (holdsDigits_just (d := '1') (by decide)) hlate]
  have hvalues : digitValue '0' = 0 ∧ digitValue '1' = 1 := by decide
  simp only [hvalues]
  constructor
  · rintro (⟨a, b, rfl, ha, hb⟩ | ⟨a, b, rfl, ha, hb⟩) <;>
    · rw [Text.decimal_two]
      exact ⟨rfl, by simp [ha, hb], by omega⟩
  · rintro ⟨hlength, hdigits, hrange⟩
    obtain ⟨a, b, rfl⟩ := List.length_eq_two.mp hlength
    have ha := hdigits a (by simp)
    have hb := hdigits b (by simp)
    have hbLt := Text.digitValue_lt hb
    rw [Text.decimal_two] at hrange
    by_cases hfirst : digitValue a = 0
    · exact .inl ⟨a, b, rfl, ⟨ha, by omega⟩, hb, by omega⟩
    · exact .inr ⟨a, b, rfl, ⟨ha, by omega⟩, hb, by omega⟩

theorem accepts_birthDay_iff :
    Accepts birthDay s ↔ s.length = 2 ∧ (∀ c ∈ s, isDigit c = true) ∧
      1 ≤ decimal s ∧ decimal s ≤ 31 := by
  have hmiddle : HoldsDigits (.among [.char '1', .char '2']) 1 2 :=
    (holdsDigits_char (d := '2') (by decide)).cons (d := '1') (by decide) rfl le_rfl
  have hlast : HoldsDigits (.among [.char '0', .char '1']) 0 1 :=
    (holdsDigits_char (d := '1') (by decide)).cons (d := '0') (by decide) rfl le_rfl
  have hdigit : HoldsDigits (.among [.span '0' '9']) 0 9 :=
    holdsDigits_span (by decide) (by decide)
  simp only [birthDay, accepts_either_iff, just, nonzeroDigit, digit,
    accepts_two_digits_iff (holdsDigits_just (d := '0') (by decide)) holdsDigits_nonzero,
    accepts_two_digits_iff hmiddle hdigit,
    accepts_two_digits_iff (holdsDigits_just (d := '3') (by decide)) hlast]
  have hvalues : digitValue '0' = 0 ∧ digitValue '3' = 3 := by decide
  simp only [hvalues]
  constructor
  · rintro (⟨a, b, rfl, ha, hb⟩ | ⟨a, b, rfl, ha, hb⟩ | ⟨a, b, rfl, ha, hb⟩) <;>
    · rw [Text.decimal_two]
      exact ⟨rfl, by simp [ha, hb], by omega⟩
  · rintro ⟨hlength, hdigits, hrange⟩
    obtain ⟨a, b, rfl⟩ := List.length_eq_two.mp hlength
    have ha := hdigits a (by simp)
    have hb := hdigits b (by simp)
    have hbLt := Text.digitValue_lt hb
    rw [Text.decimal_two] at hrange
    by_cases hfirst : digitValue a = 0
    · exact .inl ⟨a, b, rfl, ⟨ha, by omega⟩, hb, by omega⟩
    · by_cases hlate : digitValue a = 3
      · exact .inr (.inr ⟨a, b, rfl, ⟨ha, by omega⟩, hb, by omega⟩)
      · exact .inr (.inl ⟨a, b, rfl, ⟨ha, by omega⟩, hb, by omega⟩)

theorem contains_checkSet_iff {c : Char} :
    (CharSet.among [.span '0' '9', .char 'X']).contains c = true ↔
      isDigit c = true ∨ c = 'X' := by
  simp [CharSet.contains, SetItem.contains, isDigit]

theorem accepts_shape_iff :
    Accepts shape s ↔ Accepts nonzeroDigit (s.take 1) ∧ Accepts (exactly 5 digit) (slice s 1 5) ∧
      Accepts birthYear (slice s 6 4) ∧ Accepts birthMonth (slice s 10 2) ∧
        Accepts birthDay (slice s 12 2) ∧ Accepts (exactly 3 digit) (slice s 14 3) ∧
          Accepts (.one (.among [.span '0' '9', .char 'X'])) (s.drop 17) := by
  have hfirst : HasLength nonzeroDigit 1 := hasLength_one _
  have hdigits : ∀ n, HasLength (exactly n digit) n := fun n => hasLength_exactly_one n _
  have hyear : HasLength birthYear 4 := fun _ h => (accepts_birthYear_iff.mp h).1
  have hmonth : HasLength birthMonth 2 := fun _ h => (accepts_birthMonth_iff.mp h).1
  have hday : HasLength birthDay 2 := fun _ h => (accepts_birthDay_iff.mp h).1
  change Accepts (.seq nonzeroDigit (.seq (exactly 5 digit) (.seq (.part birthYear)
    (.seq (.part birthMonth) (.seq (.part birthDay) (.seq (exactly 3 digit) _)))))) s ↔ _
  rw [hfirst.accepts_seq_iff, (hdigits 5).accepts_seq_iff, hyear.part.accepts_seq_iff,
    hmonth.part.accepts_seq_iff, hday.part.accepts_seq_iff, (hdigits 3).accepts_seq_iff]
  simp only [List.drop_drop, accepts_part_iff]
  rfl

theorem length_slice {start count : Nat} (h : start + count ≤ s.length) :
    (slice s start count).length = count := by
  rw [slice, List.length_take, List.length_drop]
  omega

theorem take_seventeen (s : List Char) :
    s.take 17 = s.take 1 ++ slice s 1 5 ++ slice s 6 4 ++ slice s 10 2 ++ slice s 12 2 ++
      slice s 14 3 := by
  simp only [slice, ← List.take_add]

theorem hasShape_iff : hasShape s = true ↔ WellFormed s := by
  rw [hasShape, accepts_iff, accepts_shape_iff, accepts_nonzeroDigit_iff,
    accepts_exactly_digit_iff, accepts_birthYear_iff, accepts_birthMonth_iff,
    accepts_birthDay_iff, accepts_exactly_digit_iff, accepts_one_iff]
  simp only [contains_checkSet_iff]
  constructor
  · rintro ⟨⟨r, hr, hrNe, hfirst⟩, ⟨-, hregion⟩, ⟨-, hyear, hyears⟩, ⟨-, hmonth, hmonths⟩,
      ⟨-, hday, hdays⟩, ⟨-, hcount⟩, ⟨c, hc, hlast⟩⟩
    have hlength := congrArg List.length hlast
    rw [List.length_drop, List.length_singleton] at hlength
    refine ⟨by omega, ?_, ?_, hyears, hmonths, hdays, by simpa [hlast] using hc⟩
    · rw [take_seventeen, hfirst]
      simp only [List.forall_mem_append]
      exact ⟨⟨⟨⟨⟨by simpa using hr, hregion⟩, hyear⟩, hmonth⟩, hday⟩, hcount⟩
    · intro hzero
      have hhead : (s.take 1).head? = s.head? := by cases s <;> rfl
      rw [hfirst, hzero] at hhead
      exact hrNe (Option.some.inj hhead)
  · intro h
    have hlength := h.length_eq
    have hbody := h.body
    rw [take_seventeen] at hbody
    simp only [List.forall_mem_append] at hbody
    obtain ⟨⟨⟨⟨⟨hfirst, hregion⟩, hyear⟩, hmonth⟩, hday⟩, hcount⟩ := hbody
    refine ⟨?_, ⟨length_slice (by omega), hregion⟩, ⟨length_slice (by omega), hyear, h.year⟩,
      ⟨length_slice (by omega), hmonth, h.month⟩, ⟨length_slice (by omega), hday, h.day⟩,
      ⟨length_slice (by omega), hcount⟩, ?_⟩
    · obtain ⟨r, rest, rfl⟩ := List.exists_cons_of_length_eq_add_one hlength
      exact ⟨r, hfirst r (by simp), fun hr => h.region (by simp [hr]), rfl⟩
    · obtain ⟨c, hc⟩ : ∃ c, s.drop 17 = [c] :=
        List.length_eq_one_iff.mp (by rw [List.length_drop, hlength])
      exact ⟨c, h.check c (by simp [hc]), hc⟩

end FormCheck.IdentityNumber
