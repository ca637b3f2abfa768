import FormCheck.Proofs.Numerals

namespace FormCheck.Text

/-- The digits of a natural number, behind as many zeros as one likes. -/
def Numeral (n : Nat) (s : List Char) : Prop :=
  ∃ zeros, s = List.replicate zeros '0' ++ (toString n).toList

/-- The texts of a natural number, which may have a plus sign. -/
inductive SpellsNat (n : Nat) : List Char → Prop
  | unsigned {s : List Char} : Numeral n s → SpellsNat n s
  | plus {s : List Char} : Numeral n s → SpellsNat n ('+' :: s)

/-- The texts of a whole number, which may have either sign. -/
inductive SpellsInt : Int → List Char → Prop
  | nat {n : Nat} {s : List Char} : SpellsNat n s → SpellsInt n s
  | minus {n : Nat} {s : List Char} : Numeral n s → SpellsInt (-n) ('-' :: s)

theorem toDigits_digitValue {c : Char} (hc : isDigit c = true) :
    Nat.toDigits 10 (digitValue c) = [c] := by
  have hlt := digitValue_lt hc
  rw [Nat.toDigits_of_lt_base hlt, List.singleton_inj, ← Char.toNat_inj,
    Nat.toNat_digitChar_of_lt_ten hlt, toNat_eq_of_isDigit hc]

theorem decimal_replicate_append (zeros : Nat) (s : List Char) :
    decimal (List.replicate zeros '0' ++ s) = decimal s := by
  induction zeros with
  | zero => rfl
  | succ zeros ih => exact ih

theorem exists_zeros_of_isNumeral {s : List Char} (hs : isNumeral s = true) :
    ∃ zeros, s = List.replicate zeros '0' ++ Nat.toDigits 10 (decimal s) := by
  induction s using List.reverseRecOn with
  | nil => cases hs
  | append_singleton s c ih =>
      have hdigits := (isNumeral_iff.mp hs).2
      have hc : isDigit c = true := hdigits c (by simp)
      rw [decimal_concat]
      rcases eq_or_ne s [] with rfl | hne
      · exact ⟨0, by simp [toDigits_digitValue hc]⟩
      · obtain ⟨zeros, hzeros⟩ := ih (isNumeral_iff.mpr ⟨hne, fun d hd => hdigits d (by simp [hd])⟩)
        rcases Nat.eq_zero_or_pos (decimal s) with hzero | hpos
        · -- all digits before the last are zeros: those in front and the one digit of zero itself
          have hs : s = List.replicate (zeros + 1) '0' := by
            rw [hzeros, hzero, List.replicate_succ']
            rfl
          refine ⟨zeros + 1, ?_⟩
          rw [hzero, Nat.mul_zero, Nat.zero_add, toDigits_digitValue hc, ← hs]
        · refine ⟨zeros, ?_⟩
          rw [← Nat.toDigits_append_toDigits (by decide) hpos (digitValue_lt hc),
            toDigits_digitValue hc, ← List.append_assoc, ← hzeros]

theorem numeral_iff {n : Nat} {s : List Char} :
    Numeral n s ↔ isNumeral s = true ∧ decimal s = n := by
  simp only [Numeral, Nat.toString_eq_repr, Nat.toList_repr]
  constructor
  · rintro ⟨zeros, rfl⟩
    have hdigits := isNumeral_iff.mp (isNumeral_toDigits n)
    refine ⟨isNumeral_iff.mpr ⟨by simp [hdigits.1], fun c hc => ?_⟩, ?_⟩
    · rcases List.mem_append.mp hc with hzero | hc
      · rw [List.eq_of_mem_replicate hzero]
        rfl
      · exact hdigits.2 c hc
    · rw [decimal_replicate_append, decimal_toDigits]
  · rintro ⟨hs, rfl⟩
    exact exists_zeros_of_isNumeral hs

theorem spellsNat_decimal {s : List Char} (hs : isNumeral s = true) : SpellsNat (decimal s) s :=
  .unsigned (numeral_iff.mpr ⟨hs, rfl⟩)

theorem Numeral.not_mem {n : Nat} {s : List Char} (hs : Numeral n s) {c : Char}
    (hc : isDigit c = false) : c ∉ s :=
  not_mem_of_isNumeral (numeral_iff.mp hs).1 hc

variable {n limit : Nat} {s : List Char}

theorem spellsNat_plus_iff : SpellsNat n ('+' :: s) ↔ Numeral n s := by
  constructor
  · intro h
    cases h with
    | unsigned h => exact absurd List.mem_cons_self (h.not_mem (c := '+') rfl)
    | plus h => exact h
  · exact .plus

theorem spellsNat_iff_of_ne (hs : ∀ t, s ≠ '+' :: t) : SpellsNat n s ↔ Numeral n s := by
  constructor
  · intro h
    cases h with
    | unsigned h => exact h
    | plus h => exact absurd rfl (hs _)
  · exact .unsigned

theorem not_spellsNat_minus : ¬SpellsNat n ('-' :: s) := by
  intro h
  cases h with
  | unsigned h => exact h.not_mem (c := '-') rfl List.mem_cons_self

theorem spellsInt_minus_iff {n : Int} :
    SpellsInt n ('-' :: s) ↔ ∃ m : Nat, n = -m ∧ Numeral m s := by
  constructor
  · intro h
    cases h with
    | nat h => exact absurd h not_spellsNat_minus
    | minus h => exact ⟨_, rfl, h⟩
  · rintro ⟨m, rfl, h⟩
    exact .minus h

theorem spellsInt_iff_of_ne {n : Int} (hs : ∀ t, s ≠ '-' :: t) :
    SpellsInt n s ↔ ∃ m : Nat, n = m ∧ SpellsNat m s := by
  constructor
  · intro h
    cases h with
    | nat h => exact ⟨_, rfl, h⟩
    | minus h => exact absurd rfl (hs _)
  · rintro ⟨m, rfl, h⟩
    exact .nat h

theorem digits_eq_some_iff :
    (if isNumeral s && decimal s ≤ limit then some (decimal s) else none) = some n ↔
      Numeral n s ∧ n ≤ limit := by
  rw [numeral_iff]
  simp only [Bool.and_eq_true, decide_eq_true_eq, Option.ite_none_right_eq_some, Option.some.injEq]
  constructor
  · rintro ⟨⟨hs, hlimit⟩, rfl⟩
    exact ⟨⟨hs, rfl⟩, hlimit⟩
  · rintro ⟨⟨hs, rfl⟩, hlimit⟩
    exact ⟨⟨hs, hlimit⟩, rfl⟩

theorem readNat?_eq_some_iff : readNat? limit s = some n ↔ SpellsNat n s ∧ n ≤ limit := by
  unfold readNat?
  split
  · rw [spellsNat_plus_iff]
    exact digits_eq_some_iff
  · rename_i hplus
    rw [spellsNat_iff_of_ne hplus]
    exact digits_eq_some_iff

theorem readInt?_eq_some_iff {n least : Int} (hleast : least ≤ 0) :
    readInt? least limit s = some n ↔ SpellsInt n s ∧ least ≤ n ∧ n ≤ limit := by
  unfold readInt?
  split
  · rename_i digits
    rw [spellsInt_minus_iff]
    simp only [Bool.and_eq_true, decide_eq_true_eq, Option.ite_none_right_eq_some,
      Option.some.injEq, numeral_iff]
    constructor
    · rintro ⟨⟨hs, hbound⟩, rfl⟩
      exact ⟨⟨_, rfl, hs, rfl⟩, hbound, by omega⟩
    · rintro ⟨⟨m, rfl, hs, rfl⟩, hbound, -⟩
      exact ⟨⟨hs, hbound⟩, rfl⟩
  · rename_i hminus
    rw [spellsInt_iff_of_ne hminus]
    simp only [Option.map_eq_some_iff, readNat?_eq_some_iff]
    constructor
    · rintro ⟨m, ⟨hs, hlimit⟩, rfl⟩
      exact ⟨⟨m, rfl, hs⟩, hleast.trans (Int.natCast_nonneg m), Int.ofNat_le.mpr hlimit⟩
    · rintro ⟨⟨m, rfl, hs⟩, -, hlimit⟩
      exact ⟨m, ⟨hs, Int.ofNat_le.mp hlimit⟩, rfl⟩

theorem SpellsNat.unique {m : Nat} (hn : SpellsNat n s) (hm : SpellsNat m s) : n = m := by
  have hreadN := readNat?_eq_some_iff.mpr ⟨hn, le_max_left n m⟩
  have hreadM := readNat?_eq_some_iff.mpr ⟨hm, le_max_right n m⟩
  exact Option.some.inj (hreadN.symm.trans hreadM)

end FormCheck.Text
