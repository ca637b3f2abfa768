import FormCheck.Proofs.FixedLength

namespace FormCheck.Pattern

open Text (behind isDigit isNumeral)

variable {q : Pattern} {s : List Char} {most : Option Nat}

theorem accepts_digits_iff : Accepts digits s ↔ isNumeral s = true := by
  simp only [digits, digit, accepts_plus_one_iff, contains_digitSet, Text.isNumeral_iff]

theorem accepts_places_iff :
    Accepts (.times digit 0 most) s ↔
      (∀ c ∈ s, isDigit c = true) ∧ ∀ m ∈ most, s.length ≤ m := by
  simp only [digit, accepts_times_one_iff, contains_digitSet, Nat.zero_le, true_and]

theorem accepts_integer_iff :
    Accepts Name.integer.pattern s ↔
      isNumeral s = true ∨ ∃ numeral, s = '-' :: numeral ∧ isNumeral numeral = true := by
  change Accepts (.seq (optional (just '-')) digits) s ↔ _
  simp only [accepts_optional_seq_iff, accepts_just_seq_iff, accepts_digits_iff]

/-- A pattern whose texts have no sign. -/
def IsUnsigned (q : Pattern) : Prop :=
  ∀ s, Accepts q s → s.head? ≠ some '-'

theorem isUnsigned_digits : IsUnsigned digits := by
  intro s hs hhead
  have hmem : '-' ∈ s := List.mem_of_mem_head? hhead
  exact Text.not_mem_of_isNumeral (accepts_digits_iff.mp hs) (by decide) hmem

theorem isUnsigned_digits_seq (q : Pattern) : IsUnsigned (.seq digits q) := by
  intro s hs hhead
  obtain ⟨t, u, ht, -, rfl⟩ := accepts_seq_iff.mp hs
  obtain ⟨c, rest, rfl⟩ :=
    List.exists_cons_of_ne_nil (Text.isNumeral_iff.mp (accepts_digits_iff.mp ht)).1
  exact isUnsigned_digits _ ht hhead

theorem IsUnsigned.matchesText_signed (hq : IsUnsigned q) (value : String) :
    (Pattern.seq optionalMinus q).matchesText value =
      (q.matchesText value ^^ (Pattern.seq (just '-') q).matchesText value) := by
  have hsigned : (Pattern.seq optionalMinus q).matchesText value = true ↔
      q.matchesText value = true ∨ (Pattern.seq (just '-') q).matchesText value = true := by
    simp only [matchesText, accepts_iff]
    exact accepts_optional_seq_iff
  have hexclusive : ¬(q.matchesText value = true ∧
      (Pattern.seq (just '-') q).matchesText value = true) := by
    simp only [matchesText, accepts_iff]
    rintro ⟨hplain, hminus⟩
    obtain ⟨rest, hvalue, -⟩ := accepts_just_seq_iff.mp hminus
    exact hq _ hplain (by rw [hvalue]; rfl)
  rw [Bool.eq_iff_iff, hsigned]
  revert hexclusive
  cases q.matchesText value <;> cases (Pattern.seq (just '-') q).matchesText value <;> simp

theorem accepts_integer_append {places : List Char} (hs : Accepts Name.integer.pattern s)
    (hplaces : ∀ c ∈ places, isDigit c = true) : Accepts Name.integer.pattern (s ++ places) := by
  have happend : ∀ {numeral}, isNumeral numeral = true → isNumeral (numeral ++ places) = true := by
    intro numeral h
    obtain ⟨hne, hdigits⟩ := Text.isNumeral_iff.mp h
    exact Text.isNumeral_iff.mpr
      ⟨by simp [hne], List.forall_mem_append.mpr ⟨hdigits, hplaces⟩⟩
  rcases accepts_integer_iff.mp hs with h | ⟨numeral, rfl, h⟩
  · exact accepts_integer_iff.mpr (.inl (happend h))
  · exact accepts_integer_iff.mpr (.inr ⟨numeral ++ places, rfl, happend h⟩)

theorem accepts_withPlaces_iff :
    Accepts (inTurn [optionalMinus, digits, optional (just '.'), .times digit 0 most]) s ↔
      Accepts Name.integer.pattern s ∨
        ∃ whole places, s = whole ++ '.' :: places ∧ Accepts Name.integer.pattern whole ∧
          (∀ c ∈ places, isDigit c = true) ∧ ∀ m ∈ most, places.length ≤ m := by
  change Accepts
    (inTurn ([optionalMinus, digits] ++ [optional (just '.'), .times digit 0 most])) s ↔ _
  rw [accepts_inTurn_append_iff]
  change Accepts
    (.seq Name.integer.pattern (.seq (optional (just '.')) (.times digit 0 most))) s ↔ _
  rw [accepts_seq_iff]
  simp only [accepts_optional_seq_iff, accepts_just_seq_iff, accepts_places_iff]
  constructor
  · rintro ⟨whole, _, hwhole, ⟨hdigits, -⟩ | ⟨places, rfl, hplaces⟩, rfl⟩
    · exact .inl (accepts_integer_append hwhole hdigits)
    · exact .inr ⟨whole, places, rfl, hwhole, hplaces⟩
  · rintro (hs | ⟨whole, places, rfl, hwhole, hplaces⟩)
    · exact ⟨s, [], hs, .inl ⟨by simp, by simp⟩, by simp⟩
    · exact ⟨whole, '.' :: places, hwhole, .inr ⟨places, rfl, hplaces⟩, rfl⟩

theorem accepts_float_iff :
    Accepts Name.float.pattern s ↔
      ∃ whole places, s = whole ++ '.' :: places ∧ Accepts Name.integer.pattern whole ∧
        isNumeral places = true := by
  change Accepts (inTurn ([optionalMinus, digits] ++ [just '.', digits])) s ↔ _
  rw [accepts_inTurn_append_iff]
  change Accepts (.seq Name.integer.pattern (.seq (just '.') digits)) s ↔ _
  rw [accepts_seq_iff]
  simp only [accepts_just_seq_iff, accepts_digits_iff]
  constructor
  · rintro ⟨whole, _, hwhole, ⟨places, rfl, hplaces⟩, rfl⟩
    exact ⟨whole, places, rfl, hwhole, hplaces⟩
  · rintro ⟨whole, places, rfl, hwhole, hplaces⟩
    exact ⟨whole, '.' :: places, hwhole, ⟨places, rfl, hplaces⟩, rfl⟩

/-- No minus sign but at the start, at most one point, and digits besides. -/
structure IsNumberText (s : List Char) : Prop where
  minus : '-' ∉ s.tail
  point : s.count '.' ≤ 1
  chars : ∀ c ∈ s, c = '-' ∨ c = '.' ∨ isDigit c = true

theorem exists_cons_of_accepts_integer (hs : Accepts Name.integer.pattern s) :
    ∃ first rest, s = first :: rest ∧ (first = '-' ∨ isDigit first = true) ∧
      ∀ c ∈ rest, isDigit c = true := by
  rcases accepts_integer_iff.mp hs with h | ⟨numeral, rfl, h⟩
  · obtain ⟨hne, hdigits⟩ := Text.isNumeral_iff.mp h
    obtain ⟨first, rest, rfl⟩ := List.exists_cons_of_ne_nil hne
    obtain ⟨hfirst, hrest⟩ := List.forall_mem_cons.mp hdigits
    exact ⟨first, rest, rfl, .inr hfirst, hrest⟩
  · exact ⟨'-', numeral, rfl, .inl rfl, (Text.isNumeral_iff.mp h).2⟩

theorem not_mem_point_of_accepts_integer (hs : Accepts Name.integer.pattern s) : '.' ∉ s := by
  obtain ⟨first, rest, rfl, hfirst, hrest⟩ := exists_cons_of_accepts_integer hs
  rw [List.mem_cons]
  rintro (rfl | hmem)
  · exact absurd hfirst (by decide)
  · exact Text.not_mem_of_all hrest (by decide) hmem

theorem isNumberText_of_accepts_integer (hs : Accepts Name.integer.pattern s) : IsNumberText s := by
  have hpoint := List.count_eq_zero_of_not_mem (not_mem_point_of_accepts_integer hs)
  obtain ⟨first, rest, rfl, hfirst, hrest⟩ := exists_cons_of_accepts_integer hs
  refine ⟨Text.not_mem_of_all hrest (by decide), by omega, ?_⟩
  rw [List.forall_mem_cons]
  exact ⟨hfirst.imp_right .inr, fun c hc => .inr (.inr (hrest c hc))⟩

theorem isNumberText_of_accepts_realNumber (hs : Accepts Name.realNumber.pattern s) :
    IsNumberText s := by
  rcases accepts_withPlaces_iff.mp hs with h | ⟨whole, places, rfl, hwhole, hplaces, -⟩
  · exact isNumberText_of_accepts_integer h
  have hnumber := isNumberText_of_accepts_integer hwhole
  have hpoint := List.count_eq_zero_of_not_mem (not_mem_point_of_accepts_integer hwhole)
  have hplacesPoint :=
    List.count_eq_zero_of_not_mem (Text.not_mem_of_all hplaces (c := '.') (by decide))
  obtain ⟨first, rest, rfl, -⟩ := exists_cons_of_accepts_integer hwhole
  refine ⟨?_, ?_, ?_⟩
  · rw [List.cons_append, List.tail_cons, List.mem_append, List.mem_cons]
    rintro (hmem | h | hmem)
    · exact hnumber.minus hmem
    · exact absurd h (by decide)
    · exact Text.not_mem_of_all hplaces (by decide) hmem
  · rw [List.count_append, List.count_cons_self, hpoint, hplacesPoint]
  · refine List.forall_mem_append.mpr
        ⟨hnumber.chars, List.forall_mem_cons.mpr ⟨.inr (.inl rfl), ?_⟩⟩
    exact fun c hc => .inr (.inr (hplaces c hc))

/-- The names of the patterns for numbers. The patterns with a limit on places have none. -/
def Name.numeric : List Name :=
  [.positiveInteger, .negativeInteger, .integer, .positiveFloat, .minusFloat, .float, .realNumber]

theorem accepts_realNumber_of_float (hs : Accepts Name.float.pattern s) :
    Accepts Name.realNumber.pattern s := by
  obtain ⟨whole, places, rfl, hwhole, hplaces⟩ := accepts_float_iff.mp hs
  exact accepts_withPlaces_iff.mpr
    (.inr ⟨whole, places, rfl, hwhole, (Text.isNumeral_iff.mp hplaces).2, by simp⟩)

theorem accepts_realNumber_of_numeric {name : Name} (hname : name ∈ Name.numeric)
    (hs : Accepts name.pattern s) : Accepts Name.realNumber.pattern s := by
  have hinteger : Accepts Name.integer.pattern s → Accepts Name.realNumber.pattern s :=
    fun h => accepts_withPlaces_iff.mpr (.inl h)
  simp only [Name.numeric, List.mem_cons, List.not_mem_nil, or_false] at hname
  rcases hname with rfl | rfl | rfl | rfl | rfl | rfl | rfl
  · exact hinteger (accepts_optional_seq_iff.mpr (.inl hs))
  · exact hinteger (accepts_optional_seq_iff.mpr (.inr hs))
  · exact hinteger hs
  · exact accepts_realNumber_of_float (accepts_optional_seq_iff.mpr (.inl hs))
  · exact accepts_realNumber_of_float (accepts_optional_seq_iff.mpr (.inr hs))
  · exact accepts_realNumber_of_float hs
  · exact hs

theorem accepts_realNumber_iff :
    Accepts Name.realNumber.pattern s ↔ Accepts Name.integer.pattern s ∨
      Accepts Name.float.pattern s ∨ ∃ whole, s = whole ++ ['.'] ∧
        Accepts Name.integer.pattern whole := by
  constructor
  · intro hs
    rcases accepts_withPlaces_iff.mp hs with h | ⟨whole, places, rfl, hwhole, hplaces, -⟩
    · exact .inl h
    rcases eq_or_ne places [] with rfl | hne
    · exact .inr (.inr ⟨whole, rfl, hwhole⟩)
    · exact .inr (.inl (accepts_float_iff.mpr
        ⟨whole, places, rfl, hwhole, Text.isNumeral_iff.mpr ⟨hne, hplaces⟩⟩))
  · rintro (h | h | ⟨whole, rfl, hwhole⟩)
    · exact accepts_withPlaces_iff.mpr (.inl h)
    · exact accepts_realNumber_of_float h
    · exact accepts_withPlaces_iff.mpr (.inr ⟨whole, [], rfl, hwhole, by simp, by simp⟩)

theorem not_accepts_integer_and_float :
    ¬(Accepts Name.integer.pattern s ∧ Accepts Name.float.pattern s) := by
  rintro ⟨hinteger, hfloat⟩
  obtain ⟨whole, places, rfl, -⟩ := accepts_float_iff.mp hfloat
  exact not_mem_point_of_accepts_integer hinteger (by simp)

/-- Integers are positive or negative ones, floats are positive or negative ones, and nothing is
both of either. Nothing is an integer and a float. The real numbers are the integers, the floats
and the integers with a point behind them. All of these are written in digits, with at most one
point and no minus sign but at the start. -/
theorem numbers_divided_by_patterns (value : String) :
    Name.integer.pattern.matchesText value =
      (Name.positiveInteger.pattern.matchesText value ^^
        Name.negativeInteger.pattern.matchesText value) ∧
    Name.float.pattern.matchesText value =
      (Name.positiveFloat.pattern.matchesText value ^^
        Name.minusFloat.pattern.matchesText value) ∧
    ¬(Name.integer.pattern.matchesText value = true ∧
      Name.float.pattern.matchesText value = true) ∧
    (Name.realNumber.pattern.matchesText value = true ↔
      Name.integer.pattern.matchesText value = true ∨
        Name.float.pattern.matchesText value = true ∨
          ∃ whole, value = whole ++ "." ∧ Name.integer.pattern.matchesText whole = true) ∧
    ∀ name ∈ Name.numeric, name.pattern.matchesText value = true → IsNumberText value.toList := by
  refine ⟨isUnsigned_digits.matchesText_signed value,
    (isUnsigned_digits_seq _).matchesText_signed value, ?_⟩
  simp only [matchesText, accepts_iff]
  refine ⟨not_accepts_integer_and_float, accepts_realNumber_iff.trans ?_, ?_⟩
  · refine or_congr_right (or_congr_right ?_)
    constructor
    · rintro ⟨whole, hvalue, hwhole⟩
      refine ⟨String.ofList whole, String.toList_injective ?_, by rwa [String.toList_ofList]⟩
      rw [hvalue, String.toList_append, String.toList_ofList]
      rfl
    · rintro ⟨whole, rfl, hwhole⟩
      exact ⟨whole.toList, String.toList_append, hwhole⟩
  · intro name hname hs
    exact isNumberText_of_accepts_realNumber (accepts_realNumber_of_numeric hname hs)

theorem numbers_divided_of_trailing_point :
    Name.realNumber.pattern.matchesText "-7." = true ∧
      Name.float.pattern.matchesText "-7." = false ∧ IsNumberText "-7.".toList := by
  obtain ⟨-, -, -, hreal, hchars⟩ := numbers_divided_by_patterns "-7."
  have hmatches : Name.realNumber.pattern.matchesText "-7." = true :=
    hreal.mpr (.inr (.inr ⟨"-7", by decide, by decide⟩))
  exact ⟨hmatches, by decide, hchars .realNumber (by decide) hmatches⟩

theorem retain_eq_ok_iff {places : Nat} {p : Pattern} :
    retain places = .ok p ↔ places ≤ maxPlaces ∧
      p = inTurn [optionalMinus, digits, optional (just '.'), atMost places digit] := by
  unfold retain
  split
  · rename_i hle
    simp [hle, eq_comm]
  · rename_i hle
    simp [hle]

theorem accepts_retained_iff {places : Nat} :
    Accepts (inTurn [optionalMinus, digits, optional (just '.'), atMost places digit]) s ↔
      Accepts Name.realNumber.pattern s ∧ ('.' ∉ s ∨ (behind '.' s).length ≤ places) := by
  constructor
  · intro hs
    rcases accepts_withPlaces_iff.mp hs with h | ⟨whole, fraction, rfl, hwhole, hdigits, hcount⟩
    · exact ⟨accepts_withPlaces_iff.mpr (.inl h), .inl (not_mem_point_of_accepts_integer h)⟩
    · refine ⟨accepts_withPlaces_iff.mpr (.inr ⟨whole, fraction, rfl, hwhole, hdigits, by simp⟩),
        .inr ?_⟩
      rw [Text.behind_append (not_mem_point_of_accepts_integer hwhole)]
      exact hcount places rfl
  · rintro ⟨hs, hplaces⟩
    apply accepts_withPlaces_iff.mpr
    rcases accepts_withPlaces_iff.mp hs with h | ⟨whole, fraction, rfl, hwhole, hdigits, -⟩
    · exact .inl h
    · rcases hplaces with hpoint | hle
      · exact absurd hpoint (by simp)
      · rw [Text.behind_append (not_mem_point_of_accepts_integer hwhole)] at hle
        refine .inr ⟨whole, fraction, rfl, hwhole, hdigits, ?_⟩
        rintro m hm
        cases hm
        exact hle

theorem matchesText_of_retain {places : Nat} {p : Pattern} (hp : retain places = .ok p)
    (value : String) :
    p.matchesText value = true ↔ Name.realNumber.pattern.matchesText value = true ∧
      ('.' ∉ value.toList ∨ (behind '.' value.toList).length ≤ places) := by
  obtain ⟨-, rfl⟩ := retain_eq_ok_iff.mp hp
  simp only [matchesText, accepts_iff, accepts_retained_iff]

/-- A pattern for a limited number of places accepts the real numbers with no more characters than
that behind the point. So more places accept more, and every integer is accepted with any number of
places. A text is a real number if and only if it is accepted with any number of places that is
enough for what stands behind its point, or with all of these at once, as long as there is a pattern
for so many places. -/
theorem retain_accepts_limited_places {places : Nat} {p : Pattern} (hp : retain places = .ok p) :
    (∀ value, p.matchesText value = true ↔
      Name.realNumber.pattern.matchesText value = true ∧
        ('.' ∉ value.toList ∨ (behind '.' value.toList).length ≤ places)) ∧
    (∀ fewer q, retain fewer = .ok q → fewer ≤ places → ∀ value,
      q.matchesText value = true → p.matchesText value = true) ∧
    (∀ value, Name.integer.pattern.matchesText value = true → p.matchesText value = true) ∧
    (∀ value, (behind '.' value.toList).length ≤ places →
      (Name.realNumber.pattern.matchesText value = true ↔ p.matchesText value = true)) ∧
    ∀ value, (behind '.' value.toList).length ≤ maxPlaces →
      (Name.realNumber.pattern.matchesText value = true ↔
        ∀ enough q, retain enough = .ok q → (behind '.' value.toList).length ≤ enough →
          q.matchesText value = true) := by
  have henough : ∀ {enough q}, retain enough = .ok q → ∀ value,
      (behind '.' value.toList).length ≤ enough →
        (Name.realNumber.pattern.matchesText value = true ↔ q.matchesText value = true) := by
    intro enough q hq value hle
    rw [matchesText_of_retain hq]
    exact ⟨fun h => ⟨h, .inr hle⟩, And.left⟩
  refine ⟨matchesText_of_retain hp, ?_, ?_, fun value => henough hp value, ?_⟩
  · intro fewer q hq hle value hvalue
    obtain ⟨hreal, hplaces⟩ := (matchesText_of_retain hq value).mp hvalue
    exact (matchesText_of_retain hp value).mpr ⟨hreal, hplaces.imp_right hle.trans'⟩
  · intro value hvalue
    apply (matchesText_of_retain hp value).mpr
    simp only [matchesText, accepts_iff] at hvalue ⊢
    exact ⟨accepts_withPlaces_iff.mpr (.inl hvalue), .inl (not_mem_point_of_accepts_integer hvalue)⟩
  · intro value hmax
    constructor
    · intro hreal enough q hq hle
      exact (henough hq value hle).mp hreal
    · intro hall
      have hq := retain_eq_ok_iff.mpr ⟨hmax, rfl⟩
      exact (henough hq value le_rfl).mpr (hall _ _ hq le_rfl)

theorem retain_accepts_two_places :
    ∃ p, retain 2 = .ok p ∧ p.matchesText "-3.14" = true ∧ p.matchesText "3." = true ∧
      p.matchesText "3.141" = false := by
  have hretain := retain_eq_ok_iff.mpr ⟨(by decide : 2 ≤ maxPlaces), rfl⟩
  obtain ⟨haccepts, -, -, henough, -⟩ := retain_accepts_limited_places hretain
  refine ⟨_, hretain, ?_⟩
  refine ⟨(henough "-3.14" (by decide)).mp (by decide), (haccepts "3.").mpr (by decide), ?_⟩
  rw [Bool.eq_false_iff]
  intro hlong
  exact absurd ((haccepts "3.141").mp hlong).2 (by decide)

end FormCheck.Pattern
