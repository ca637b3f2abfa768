import FormCheck.Pattern.Named
import FormCheck.Proofs.Numerals
import FormCheck.Proofs.PatternBuilders

namespace FormCheck.Pattern

variable {p q : Pattern} {set : CharSet} {s : List Char} {m n : Nat}

/-- A pattern all of whose texts have `n` characters. -/
def HasLength (p : Pattern) (n : Nat) : Prop :=
  ∀ s, Accepts p s → s.length = n

theorem hasLength_one (set : CharSet) : HasLength (.one set) 1 := by
  intro s h
  obtain ⟨c, -, rfl⟩ := accepts_one_iff.mp h
  rfl

theorem HasLength.part (hp : HasLength p n) : HasLength (.part p) n :=
  fun s h => hp s (accepts_part_iff.mp h)

theorem HasLength.accepts_seq_iff (hp : HasLength p n) :
    Accepts (.seq p q) s ↔ Accepts p (s.take n) ∧ Accepts q (s.drop n) := by
  constructor
  · intro h
    obtain ⟨t, u, ht, hu, rfl⟩ := Pattern.accepts_seq_iff.mp h
    rw [← hp t ht, List.take_left, List.drop_left]
    exact ⟨ht, hu⟩
  · rintro ⟨ht, hu⟩
    exact Pattern.accepts_seq_iff.mpr ⟨_, _, ht, hu, (List.take_append_drop n s).symm⟩

theorem hasLength_exactly_one (n : Nat) (set : CharSet) : HasLength (exactly n (.one set)) n :=
  fun _ h => (accepts_exactly_one_iff.mp h).1

theorem contains_span_iff {a b c : Char} (ha : Text.isDigit a = true) (hb : Text.isDigit b = true) :
    (SetItem.span a b).contains c = true ↔ Text.isDigit c = true ∧
      Text.digitValue a ≤ Text.digitValue c ∧ Text.digitValue c ≤ Text.digitValue b := by
  have hspan : (SetItem.span a b).contains c = true ↔ a.toNat ≤ c.toNat ∧ c.toNat ≤ b.toNat := by
    simp only [SetItem.contains, Bool.and_eq_true, decide_eq_true_eq, Char.le_def,
      UInt32.le_iff_toNat_le]
    rfl
  have haBounds := Text.isDigit_iff.mp ha
  have hbBounds := Text.isDigit_iff.mp hb
  have haValue := Text.toNat_eq_of_isDigit ha
  have hbValue := Text.toNat_eq_of_isDigit hb
  rw [hspan]
  constructor
  · intro h
    have hc : Text.isDigit c = true := Text.isDigit_iff.mpr (by omega)
    have hcValue := Text.toNat_eq_of_isDigit hc
    exact ⟨hc, by omega⟩
  · rintro ⟨hc, h⟩
    have hcValue := Text.toNat_eq_of_isDigit hc
    omega

/-- A set that holds the digits from `lo` to `hi` and no other characters. -/
def HoldsDigits (set : CharSet) (lo hi : Nat) : Prop :=
  ∀ c, set.contains c = true ↔
    Text.isDigit c = true ∧ lo ≤ Text.digitValue c ∧ Text.digitValue c ≤ hi

theorem holdsDigits_just {d : Char} (hd : Text.isDigit d = true) :
    HoldsDigits (.just d) (Text.digitValue d) (Text.digitValue d) := by
  intro c
  simp only [CharSet.contains, beq_iff_eq, Text.eq_iff_digitValue_eq hd]
  constructor
  · rintro ⟨hc, h⟩
    exact ⟨hc, by omega, by omega⟩
  · rintro ⟨hc, hle, hge⟩
    exact ⟨hc, by omega⟩

theorem holdsDigits_char {d : Char} (hd : Text.isDigit d = true) :
    HoldsDigits (.among [.char d]) (Text.digitValue d) (Text.digitValue d) := by
  intro c
  simpa [CharSet.contains, SetItem.contains] using holdsDigits_just hd c

theorem holdsDigits_span {a b : Char} (ha : Text.isDigit a = true) (hb : Text.isDigit b = true) :
    HoldsDigits (.among [.span a b]) (Text.digitValue a) (Text.digitValue b) := by
  intro c
  simpa [CharSet.contains] using contains_span_iff ha hb

theorem HoldsDigits.cons {items : List SetItem} {lo hi : Nat} {d : Char}
    (h : HoldsDigits (.among items) lo hi) (hd : Text.isDigit d = true)
    (hnext : Text.digitValue d + 1 = lo) (hle : lo ≤ hi) :
    HoldsDigits (.among (.char d :: items)) (Text.digitValue d) hi := by
  intro c
  have hitems := h c
  have hchar := holdsDigits_just hd c
  simp only [CharSet.contains, List.any_cons, SetItem.contains, Bool.or_eq_true] at hitems hchar ⊢
  rw [hitems, hchar]
  constructor
  · rintro (⟨hc, hlo, hhi⟩ | ⟨hc, hlo, hhi⟩)
    · exact ⟨hc, by omega, by omega⟩
    · exact ⟨hc, by omega, hhi⟩
  · rintro ⟨hc, hlo, hhi⟩
    by_cases heq : Text.digitValue c = Text.digitValue d
    · exact .inl ⟨hc, by omega, by omega⟩
    · exact .inr ⟨hc, by omega, hhi⟩

theorem accepts_two_digits_iff {set' : CharSet} {lo hi lo' hi' : Nat} (h : HoldsDigits set lo hi)
    (h' : HoldsDigits set' lo' hi') :
    Accepts (.seq (.one set) (.one set')) s ↔ ∃ a b, s = [a, b] ∧
      (Text.isDigit a = true ∧ lo ≤ Text.digitValue a ∧ Text.digitValue a ≤ hi) ∧
      (Text.isDigit b = true ∧ lo' ≤ Text.digitValue b ∧ Text.digitValue b ≤ hi') := by
  rw [accepts_seq_iff]
  constructor
  · rintro ⟨t, u, ht, hu, rfl⟩
    obtain ⟨a, ha, rfl⟩ := accepts_one_iff.mp ht
    obtain ⟨b, hb, rfl⟩ := accepts_one_iff.mp hu
    exact ⟨a, b, rfl, (h a).mp ha, (h' b).mp hb⟩
  · rintro ⟨a, b, rfl, ha, hb⟩
    exact ⟨[a], [b], .one ((h a).mpr ha), .one ((h' b).mpr hb), rfl⟩

theorem contains_digitSet (c : Char) :
    (CharSet.among [.span '0' '9']).contains c = Text.isDigit c := by
  simp [CharSet.contains, SetItem.contains, Text.isDigit]

theorem accepts_exactly_digit_iff :
    Accepts (exactly n digit) s ↔ s.length = n ∧ ∀ c ∈ s, Text.isDigit c = true := by
  simp only [digit, accepts_exactly_one_iff, contains_digitSet]

end FormCheck.Pattern
