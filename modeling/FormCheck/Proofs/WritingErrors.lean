import FormCheck.Proofs.IdentityVerdict
import Mathlib.Algebra.BigOperators.Ring.Finset
import Mathlib.Algebra.Field.ZMod
import Mathlib.Data.List.GetD
import Mathlib.Tactic.Ring

namespace FormCheck.IdentityNumber

open Finset (range)

/-- The texts that one error of writing makes of a text. The powers of two repeat modulo eleven
after ten steps, so that characters ten places apart may be exchanged unseen. -/
inductive Miswritten (s : List Char) : List Char → Prop where
  | replaced {i : Nat} {c : Char} (hi : i < s.length) (hne : s[i] ≠ c) :
      Miswritten s (s.set i c)
  | exchanged {i j : Nat} (hij : i < j) (hj : j < s.length) (hfar : j - i ≠ 10)
      (hne : s[i] ≠ s[j]) : Miswritten s ((s.set i s[j]).set j s[i])

/-- What the characters of an identity number add up to modulo eleven. The number is balanced when
that is one. -/
def residue (s : List Char) : ZMod 11 :=
  ∑ i ∈ range 18, 2 ^ (17 - i) * (codeValue (s.getD i '0') : ZMod 11)

instance factPrimeEleven : Fact (Nat.Prime 11) := ⟨by decide⟩

variable {s t : List Char}

theorem WellFormed.isCode (h : WellFormed s) {c : Char} (hc : c ∈ s) : IsCode c := by
  rw [← List.take_append_drop 17 s] at hc
  rcases List.mem_append.mp hc with hc | hc
  · exact .inl (h.body c hc)
  · exact h.check c hc

theorem WellFormed.balanced_iff (h : WellFormed s) : Balanced s ↔ residue s = 1 := by
  have hdigits : ∀ i ∈ range 17, codeValue (s.getD i '0') = Text.digitValue (s.getD i '0') := by
    intro i hi
    have hlt : i < (s.take 17).length := by
      rw [List.length_take, h.length_eq]
      exact Finset.mem_range.mp hi
    have hmem := List.getElem_mem hlt
    rw [List.getElem_take] at hmem
    rw [List.getD_eq_getElem s '0' (by rw [List.length_take] at hlt; omega)]
    exact codeValue_of_isDigit (h.body _ hmem)
  have hpowers : powerSum s = ∑ i ∈ range 17, 2 ^ (17 - i) * codeValue (s.getD i '0') :=
    Finset.sum_congr rfl fun i hi => by rw [hdigits i hi]
  have hresidue : residue s = ((powerSum s + codeValue (s.getD 17 '0') : Nat) : ZMod 11) := by
    rw [residue, Finset.sum_range_succ, hpowers]
    push_cast
    ring
  calc
    Balanced s ↔ (powerSum s + codeValue (s.getD 17 '0')) % 11 = 1 % 11 := Iff.rfl
    _ ↔ ((powerSum s + codeValue (s.getD 17 '0') : Nat) : ZMod 11) = (1 : Nat) :=
      (ZMod.natCast_eq_natCast_iff' _ 1 11).symm
    _ ↔ residue s = 1 := by rw [hresidue, Nat.cast_one]

theorem eq_of_cast_codeValue_eq {c d : Char} (hc : IsCode c) (hd : IsCode d)
    (h : (codeValue c : ZMod 11) = codeValue d) : c = d := by
  rw [ZMod.natCast_eq_natCast_iff', Nat.mod_eq_of_lt (codeValue_lt hc),
    Nat.mod_eq_of_lt (codeValue_lt hd)] at h
  exact eq_of_codeValue_eq hc hd h

theorem residue_set {i : Nat} (hi : i < s.length) (hplace : i < 18) (c : Char) :
    residue (s.set i c) =
      residue s + 2 ^ (17 - i) * ((codeValue c : ZMod 11) - codeValue s[i]) := by
  have hmem : i ∈ range 18 := Finset.mem_range.mpr hplace
  have hothers : ∀ k ∈ (range 18).erase i,
      2 ^ (17 - k) * (codeValue ((s.set i c).getD k '0') : ZMod 11) =
        2 ^ (17 - k) * codeValue (s.getD k '0') := by
    intro k hk
    have hne : i ≠ k := (Finset.ne_of_mem_erase hk).symm
    rw [List.getD_eq_getElem?_getD, List.getElem?_set_ne hne, ← List.getD_eq_getElem?_getD]
  rw [residue, residue, ← Finset.add_sum_erase _ _ hmem, ← Finset.add_sum_erase (range 18) _ hmem,
    Finset.sum_congr rfl hothers, List.getD_eq_getElem _ _ (by rwa [List.length_set]),
    List.getElem_set_self, List.getD_eq_getElem _ _ hi]
  ring

theorem residue_exchange {i j : Nat} (hij : i < j) (hj : j < s.length) (hplace : j < 18) :
    residue ((s.set i s[j]).set j s[i]) = residue s +
      2 ^ (17 - j) * (2 ^ (j - i) - 1) * ((codeValue s[j] : ZMod 11) - codeValue s[i]) := by
  have hpower : (2 : ZMod 11) ^ (17 - i) = 2 ^ (17 - j) * 2 ^ (j - i) := by
    rw [← pow_add]
    congr 1
    omega
  rw [residue_set (by rwa [List.length_set]) hplace, residue_set (hij.trans hj) (hij.trans hplace),
    List.getElem_set_ne hij.ne, hpower]
  ring

theorem two_pow_ne_one {n : Nat} (hpos : 0 < n) (hlt : n < 18) (hne : n ≠ 10) :
    (2 : ZMod 11) ^ n ≠ 1 := by
  have htable : ∀ n < 18, 0 < n → n ≠ 10 → (2 : ZMod 11) ^ n ≠ 1 := by decide
  exact htable n hlt hpos hne

/-- An error that leaves the shape of a text alone changes what its characters add up to. -/
theorem Miswritten.residue_ne (hs : WellFormed s) (ht : WellFormed t) (h : Miswritten s t) :
    residue t ≠ residue s := by
  have hlength := hs.length_eq
  have htwo : (2 : ZMod 11) ≠ 0 := by decide
  intro hsame
  cases h with
  | @replaced i c hi hne =>
      -- The shape leaves only codes for the new character, and codes differ modulo eleven.
      have hcode : IsCode c := ht.isCode (List.mem_set hi c)
      rw [residue_set hi (by omega), add_eq_left, mul_eq_zero, sub_eq_zero] at hsame
      rcases hsame with hzero | heq
      · exact pow_ne_zero _ htwo hzero
      · exact hne (eq_of_cast_codeValue_eq (hs.isCode (List.getElem_mem hi)) hcode heq.symm)
  | @exchanged i j hij hj hfar hne =>
      have hcycle : (2 : ZMod 11) ^ (j - i) ≠ 1 := two_pow_ne_one (by omega) (by omega) hfar
      rw [residue_exchange hij hj (by omega), add_eq_left, mul_eq_zero, mul_eq_zero,
        sub_eq_zero, sub_eq_zero] at hsame
      rcases hsame with (hzero | hone) | heq
      · exact pow_ne_zero _ htwo hzero
      · exact hcycle hone
      · exact hne (eq_of_cast_codeValue_eq (hs.isCode (List.getElem_mem (hij.trans hj)))
          (hs.isCode (List.getElem_mem hj)) heq.symm)

theorem isValid_eq_false_of_miswritten {s t : String} (hs : isValid s = true)
    (h : Miswritten s.toList t.toList) : isValid t = false := by
  obtain ⟨hsForm, hsSum⟩ := isValid_iff.mp hs
  refine Bool.eq_false_iff.mpr fun ht => ?_
  obtain ⟨htForm, htSum⟩ := isValid_iff.mp ht
  refine h.residue_ne hsForm htForm ?_
  rw [hsForm.balanced_iff.mp hsSum, htForm.balanced_iff.mp htSum]

theorem isValid_eq_false_of_last_two_exchanged : isValid "110101199003070775" = true ∧
    isValid "110101199003070757" = false := by
  have hs : isValid "110101199003070775" = true := by decide
  have h : Miswritten "110101199003070775".toList "110101199003070757".toList :=
    .exchanged (i := 16) (j := 17) (by decide) (by decide) (by decide) (by decide)
  exact ⟨hs, isValid_eq_false_of_miswritten hs h⟩

end FormCheck.IdentityNumber
