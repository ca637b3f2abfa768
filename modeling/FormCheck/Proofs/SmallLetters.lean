import FormCheck.Text.Lowercase
import Mathlib.Data.List.Basic

namespace FormCheck.Text

/-- The ASCII characters that nothing beyond ASCII has for its small form. The letter k is that of
the Kelvin sign. -/
def IsPlain (c : Char) : Prop :=
  0 < c.toNat ∧ c.toNat < 128 ∧ c ≠ 'k'

instance : DecidablePred IsPlain := fun _ => inferInstanceAs (Decidable (_ ∧ _))

theorem capitalRun_lower_ge : ∀ run ∈ capitalRuns,
    128 ≤ run.first + run.shift ∨ run = ⟨0x212A, 0x212A, 1, -8383⟩ := by
  decide +kernel

theorem lowerCode_ge {n : Nat} (hn : 128 ≤ n) (hkelvin : n ≠ 0x212A) : 128 ≤ lowerCode n := by
  unfold lowerCode
  cases hrun : capitalRuns.find? (·.has n) with
  | none => exact hn
  | some run =>
      have hhas : run.has n = true :=
        List.find?_some (p := fun run : CapitalRun => run.has n) hrun
      simp only [CapitalRun.has, Bool.and_eq_true, decide_eq_true_eq] at hhas
      obtain ⟨⟨hfirst, hlast⟩, -⟩ := hhas
      rcases capitalRun_lower_ge run (List.mem_of_find?_eq_some hrun) with hlower | rfl
      · change 128 ≤ (n + run.shift).toNat
        omega
      · exact absurd (Nat.le_antisymm hlast hfirst) hkelvin

theorem toNat_ofNat_eq_or (n : Nat) : (Char.ofNat n).toNat = n ∨ (Char.ofNat n).toNat = 0 := by
  by_cases hvalid : n.isValidChar
  · exact .inl (congrArg Char.toNat (dif_pos hvalid))
  · exact .inr (congrArg Char.toNat (dif_neg hvalid))

theorem not_isPlain_ofNat {n : Nat} (hn : 128 ≤ n) : ¬IsPlain (Char.ofNat n) := by
  rintro ⟨hpos, hlt, -⟩
  have hcode := toNat_ofNat_eq_or n
  omega

theorem not_isPlain_lowerSigma (before after : List Char) :
    ¬IsPlain (lowerSigma before after) := by
  unfold lowerSigma
  split <;> exact not_isPlain_ofNat (by omega)

theorem exists_not_isPlain_lowerChar {c : Char} (hc : 128 ≤ c.toNat) :
    ∃ d ∈ lowerChar c, ¬IsPlain d := by
  unfold lowerChar
  rw [if_neg (by omega)]
  split
  · exact ⟨Char.ofNat 0x307, by simp, not_isPlain_ofNat (by omega)⟩
  · refine ⟨Char.ofNat (lowerCode c.toNat), List.mem_singleton_self _, ?_⟩
    by_cases hkelvin : c.toNat = 0x212A
    · rw [hkelvin]
      decide
    · exact not_isPlain_ofNat (lowerCode_ge hc hkelvin)

theorem toLower_of_ge {c : Char} (hc : 128 ≤ c.toNat) : c.toLower = c := by
  unfold Char.toLower
  rw [dif_neg]
  rintro ⟨-, hlast⟩
  have hle : c.toNat ≤ 90 := UInt32.le_iff_toNat_le.mp hlast
  omega

theorem lowerAfter_cons_of_lt {c : Char} (hc : c.toNat < 128) (before rest : List Char) :
    lowerAfter before (c :: rest) = c.toLower :: lowerAfter (c :: before) rest := by
  rw [lowerAfter, if_neg (by omega), lowerChar, if_pos hc]
  rfl

theorem exists_not_isPlain_lowerAfter_cons {c : Char} (hc : 128 ≤ c.toNat)
    (before rest : List Char) : ∃ d ∈ lowerAfter before (c :: rest), ¬IsPlain d := by
  rw [lowerAfter]
  split
  · exact ⟨_, by simp, not_isPlain_lowerSigma before rest⟩
  · obtain ⟨d, hd, hplain⟩ := exists_not_isPlain_lowerChar hc
    exact ⟨d, List.mem_append_left _ hd, hplain⟩

theorem lowerAfter_eq_iff {word : List Char} (hword : ∀ c ∈ word, IsPlain c)
    {before s : List Char} : lowerAfter before s = word ↔ s.map Char.toLower = word := by
  induction s generalizing before word with
  | nil => rfl
  | cons c rest ih =>
      by_cases hc : c.toNat < 128
      · rw [lowerAfter_cons_of_lt hc, List.map_cons]
        cases word with
        | nil => simp
        | cons d word =>
            rw [List.cons.injEq, List.cons.injEq, ih (List.forall_mem_cons.mp hword).2]
      · have hge : 128 ≤ c.toNat := by omega
        constructor
        · rintro rfl
          obtain ⟨d, hd, hplain⟩ := exists_not_isPlain_lowerAfter_cons hge before rest
          exact absurd (hword d hd) hplain
        · rintro rfl
          have hplain : IsPlain c.toLower := hword _ (by simp)
          rw [toLower_of_ge hge] at hplain
          exact absurd hplain.2.1 hc

/-- A word of plain characters is the small form of the texts that spell it in ASCII letters of
either case, and of no other text of any script. -/
theorem lowercase_eq_iff {s word : String} (hword : ∀ c ∈ word.toList, IsPlain c) :
    lowercase s = word ↔ s.toList.map Char.toLower = word.toList := by
  rw [← lowerAfter_eq_iff hword, lowercase, ← String.toList_inj, String.toList_ofList]

end FormCheck.Text
