import FormCheck.Proofs.DateParts
import FormCheck.Proofs.FixedLength

namespace FormCheck.Date

open Pattern (Accepts Name inTurn just exactly digit)
open Text (isDigit)

/-- Four digits for the year and two each for month and day. -/
structure Parts.Digital (p : Parts) : Prop where
  year : DigitRun 4 p.year
  month : TwoDigits p.month
  day : TwoDigits p.day

theorem Parts.digital_iff {p : Parts} :
    p.Digital ↔ DigitRun 4 p.year ∧ TwoDigits p.month ∧ TwoDigits p.day :=
  ⟨fun h => ⟨h.year, h.month, h.day⟩, fun h => ⟨h.1, h.2.1, h.2.2⟩⟩

instance {p : Parts} : Decidable p.Digital :=
  decidable_of_iff _ Parts.digital_iff.symm

/-- The parts spelled as `yyyy-mm-dd`. -/
def Parts.yearFirst (p : Parts) : String :=
  p.year ++ "-" ++ p.month ++ "-" ++ p.day

/-- The parts spelled as `mm/dd/yyyy`. -/
def Parts.monthFirst (p : Parts) : String :=
  p.month ++ "/" ++ p.day ++ "/" ++ p.year

theorem digitRun_ofList_iff {count : Nat} {s : List Char} :
    DigitRun count (String.ofList s) ↔ s.length = count ∧ s.all isDigit = true := by
  rw [digitRun_iff, String.toList_ofList]

theorem DigitRun.exists_ofList {count : Nat} {s : String} (hs : DigitRun count s) :
    ∃ chars, s = String.ofList chars ∧ chars.length = count ∧ chars.all Text.isDigit = true :=
  ⟨s.toList, String.ofList_toList.symm, digitRun_iff.mp hs⟩

theorem DigitRun.exists_four {s : String} (hs : DigitRun 4 s) :
    ∃ a b c d, s = String.ofList [a, b, c, d] ∧ [a, b, c, d].all Text.isDigit = true := by
  obtain ⟨chars, rfl, hlength, hdigits⟩ := hs.exists_ofList
  match chars, hlength with
  | [a, b, c, d], _ => exact ⟨a, b, c, d, rfl, hdigits⟩

theorem TwoDigits.exists_two {s : String} (hs : TwoDigits s) :
    ∃ a b, s = String.ofList [a, b] ∧ [a, b].all Text.isDigit = true := by
  obtain ⟨chars, rfl, hlength, hdigits⟩ := hs.exists_ofList
  obtain ⟨a, b, rfl⟩ := List.length_eq_two.mp hlength
  exact ⟨a, b, rfl, hdigits⟩

theorem Parts.digital_of_all_isDigit {a b c d e f g i : Char}
    (h : [a, b, c, d, e, f, g, i].all isDigit = true) :
    Parts.Digital ⟨String.ofList [a, b, c, d], String.ofList [e, f], String.ofList [g, i]⟩ where
  year := digitRun_ofList_iff.mpr ⟨rfl, by simp_all⟩
  month := digitRun_ofList_iff.mpr ⟨rfl, by simp_all⟩
  day := digitRun_ofList_iff.mpr ⟨rfl, by simp_all⟩

variable {p : Parts} {value : String}

theorem Parts.Digital.ofText?_yearFirst (h : p.Digital) :
    Parts.ofText? p.yearFirst = some p := by
  obtain ⟨year, month, day⟩ := p
  obtain ⟨a, b, c, d, rfl, hyear⟩ := h.year.exists_four
  obtain ⟨e, f, rfl, hmonth⟩ := h.month.exists_two
  obtain ⟨g, i, rfl, hday⟩ := h.day.exists_two
  simp_all [Parts.ofText?, Parts.yearFirst, Parts.ofChars?]

theorem Parts.Digital.ofText?_monthFirst (h : p.Digital) :
    Parts.ofText? p.monthFirst = some p := by
  obtain ⟨year, month, day⟩ := p
  obtain ⟨a, b, c, d, rfl, hyear⟩ := h.year.exists_four
  obtain ⟨e, f, rfl, hmonth⟩ := h.month.exists_two
  obtain ⟨g, i, rfl, hday⟩ := h.day.exists_two
  have hslash : isDigit '/' = false := by decide
  simp_all [Parts.ofText?, Parts.monthFirst, Parts.ofChars?]

theorem ofChars?_eq_some {s : List Char} (h : Parts.ofChars? s = some p) :
    p.Digital ∧ (String.ofList s = p.yearFirst ∨ String.ofList s = p.monthFirst) := by
  unfold Parts.ofChars? at h
  split at h
  · rename_i a b c d e f g i j k
    split_ifs at h with hyearFirst hmonthFirst
    · cases h
      simp only [Bool.and_eq_true, beq_iff_eq] at hyearFirst
      obtain ⟨⟨hdigits, rfl⟩, rfl⟩ := hyearFirst
      refine ⟨Parts.digital_of_all_isDigit hdigits, .inl (String.toList_injective ?_)⟩
      simp [Parts.yearFirst]
    · cases h
      simp only [Bool.and_eq_true, beq_iff_eq] at hmonthFirst
      obtain ⟨⟨hdigits, rfl⟩, rfl⟩ := hmonthFirst
      refine ⟨Parts.digital_of_all_isDigit (by simp_all), .inr (String.toList_injective ?_)⟩
      simp [Parts.monthFirst]
  · cases h

theorem ofText?_eq_some_iff :
    Parts.ofText? value = some p ↔ p.Digital ∧ (value = p.yearFirst ∨ value = p.monthFirst) := by
  constructor
  · intro h
    have hspelled := ofChars?_eq_some h
    rwa [String.ofList_toList] at hspelled
  · rintro ⟨h, rfl | rfl⟩
    · exact h.ofText?_yearFirst
    · exact h.ofText?_monthFirst

theorem digitRun_iff_accepts {count : Nat} {s : String} :
    DigitRun count s ↔ Accepts (.part (exactly count digit)) s.toList := by
  rw [Pattern.accepts_part_iff, Pattern.accepts_exactly_digit_iff]
  exact ⟨fun h => ⟨h.length_eq, h.isDigit⟩, fun h => ⟨h.1, h.2⟩⟩

theorem accepts_separated_iff {separator : Char} {m n k : Nat} {s : List Char} :
    Accepts (inTurn [.part (exactly m digit), just separator, .part (exactly n digit),
      just separator, .part (exactly k digit)]) s ↔
      ∃ a b c : String, DigitRun m a ∧ DigitRun n b ∧ DigitRun k c ∧
        s = a.toList ++ separator :: (b.toList ++ separator :: c.toList) := by
  simp only [inTurn, digitRun_iff_accepts, Pattern.accepts_seq_iff, Pattern.accepts_just_iff]
  constructor
  · rintro ⟨a, _, ha, ⟨_, _, rfl, ⟨b, _, hb, ⟨_, c, rfl, hc, rfl⟩, rfl⟩, rfl⟩, rfl⟩
    refine ⟨String.ofList a, String.ofList b, String.ofList c, ?_⟩
    simp only [String.toList_ofList]
    exact ⟨ha, hb, hc, rfl⟩
  · rintro ⟨a, b, c, ha, hb, hc, rfl⟩
    exact ⟨_, _, ha, ⟨_, _, rfl, ⟨_, _, hb, ⟨_, _, rfl, hc, rfl⟩, rfl⟩, rfl⟩, rfl⟩

theorem matchesText_yearFirstDate_iff :
    Name.yearFirstDate.pattern.matchesText value = true ↔
      ∃ p : Parts, p.Digital ∧ value = p.yearFirst := by
  rw [Pattern.matchesText, Pattern.accepts_iff]
  refine accepts_separated_iff.trans ?_
  constructor
  · rintro ⟨year, month, day, hyear, hmonth, hday, hvalue⟩
    refine ⟨⟨year, month, day⟩, ⟨hyear, hmonth, hday⟩, String.toList_injective ?_⟩
    simp [hvalue, Parts.yearFirst]
  · rintro ⟨p, hp, rfl⟩
    exact ⟨p.year, p.month, p.day, hp.year, hp.month, hp.day, by simp [Parts.yearFirst]⟩

theorem matchesText_monthFirstDate_iff :
    Name.monthFirstDate.pattern.matchesText value = true ↔
      ∃ p : Parts, p.Digital ∧ value = p.monthFirst := by
  rw [Pattern.matchesText, Pattern.accepts_iff]
  refine accepts_separated_iff.trans ?_
  constructor
  · rintro ⟨month, day, year, hmonth, hday, hyear, hvalue⟩
    refine ⟨⟨year, month, day⟩, ⟨hyear, hmonth, hday⟩, String.toList_injective ?_⟩
    simp [hvalue, Parts.monthFirst]
  · rintro ⟨p, hp, rfl⟩
    exact ⟨p.month, p.day, p.year, hp.month, hp.day, hp.year, by simp [Parts.monthFirst]⟩

theorem isSome_ofText?_iff :
    (Parts.ofText? value).isSome = true ↔
      Name.yearFirstDate.pattern.matchesText value = true ∨
        Name.monthFirstDate.pattern.matchesText value = true := by
  simp only [Option.isSome_iff_exists, ofText?_eq_some_iff, matchesText_yearFirstDate_iff,
    matchesText_monthFirstDate_iff, and_or_left, exists_or]

end FormCheck.Date
