import FormCheck.Proofs.IdentityShape
import Mathlib.Algebra.BigOperators.Group.Finset.Basic

namespace FormCheck.IdentityNumber

open Finset (range)
open Text (isDigit digitValue)

/-- The characters that can stand at the end of an identity number: the digits, and a capital X for
ten. -/
def IsCode (c : Char) : Prop :=
  isDigit c = true ∨ c = 'X'

instance : DecidablePred IsCode := fun _ => inferInstanceAs (Decidable (_ ∨ _))

/-- The number that a code stands for. -/
def codeValue (c : Char) : Nat :=
  if c = 'X' then 10 else digitValue c

/-- The sum of the first seventeen digits, each times its power of two. -/
def powerSum (s : List Char) : Nat :=
  ∑ i ∈ range 17, 2 ^ (17 - i) * digitValue (s.getD i '0')

/-- The congruence that the check character settles. -/
def Balanced (s : List Char) : Prop :=
  (powerSum s + codeValue (s.getD 17 '0')) % 11 = 1

instance : DecidablePred Balanced := fun _ => inferInstanceAs (Decidable (_ = _))

theorem codeValue_of_isDigit {c : Char} (hc : isDigit c = true) : codeValue c = digitValue c := by
  have hne : c ≠ 'X' := by
    rintro rfl
    exact absurd hc (by decide)
  rw [codeValue, if_neg hne]

theorem codeValue_lt {c : Char} (hc : IsCode c) : codeValue c < 11 := by
  rcases hc with hc | rfl
  · have hlt := Text.digitValue_lt hc
    rw [codeValue_of_isDigit hc]
    omega
  · decide

theorem eq_of_codeValue_eq {c d : Char} (hc : IsCode c) (hd : IsCode d)
    (h : codeValue c = codeValue d) : c = d := by
  have hten : codeValue 'X' = 10 := rfl
  rcases hc with hc | rfl <;> rcases hd with hd | rfl
  · rw [codeValue_of_isDigit hc, codeValue_of_isDigit hd] at h
    exact Text.eq_of_digitValue_eq hc hd h
  · have hlt := Text.digitValue_lt hc
    rw [codeValue_of_isDigit hc] at h
    omega
  · have hlt := Text.digitValue_lt hd
    rw [codeValue_of_isDigit hd] at h
    omega
  · rfl

theorem checkCodes_get_eq_iff {r : Nat} (hr : r < checkCodes.length) {c : Char} :
    checkCodes.get ⟨r, hr⟩ = c ↔ IsCode c ∧ (r + codeValue c) % 11 = 1 := by
  -- The table runs backwards, from the code that is worth one.
  have htable : ∀ k : Fin checkCodes.length, IsCode (checkCodes.get k) ∧
      codeValue (checkCodes.get k) = (12 - k.val) % 11 := by decide
  have hcode : IsCode (checkCodes.get ⟨r, hr⟩) := (htable ⟨r, hr⟩).1
  have hvalue : codeValue (checkCodes.get ⟨r, hr⟩) = (12 - r) % 11 := (htable ⟨r, hr⟩).2
  have hlt : r < 11 := hr
  constructor
  · rintro rfl
    refine ⟨hcode, ?_⟩
    rw [hvalue]
    omega
  · rintro ⟨hc, hsum⟩
    have hcLt := codeValue_lt hc
    apply eq_of_codeValue_eq hcode hc
    rw [hvalue]
    omega

theorem weightedSum?_of_digits {body : List Char} (hbody : ∀ c ∈ body, isDigit c = true) (sum : Nat)
    {ws : List Nat} (hlength : body.length = ws.length) :
    weightedSum? sum body ws =
      some (sum + ∑ i ∈ range ws.length, digitValue (body.getD i '0') * ws.getD i 0) := by
  induction ws generalizing sum body with
  | nil =>
      rw [List.length_eq_zero_iff.mp hlength]
      rfl
  | cons w ws ih =>
      obtain ⟨c, rest, rfl⟩ := List.exists_cons_of_length_eq_add_one hlength
      have hc : isDigit c = true := hbody c (by simp)
      have hrest : ∀ d ∈ rest, isDigit d = true := fun d hd => hbody d (by simp [hd])
      rw [weightedSum?, if_pos hc, ih hrest _ (Nat.succ.inj hlength), List.length_cons,
        Finset.sum_range_succ']
      simp only [List.getD_cons_succ, List.getD_cons_zero, Option.some.injEq]
      omega

theorem isDigit_of_weightedSum?_eq_some {body : List Char} {ws : List Nat} {sum n : Nat}
    (hlength : body.length ≤ ws.length) (h : weightedSum? sum body ws = some n) :
    ∀ c ∈ body, isDigit c = true := by
  induction body generalizing sum ws with
  | nil => simp
  | cons c rest ih =>
      cases ws with
      | nil => simp at hlength
      | cons w ws =>
          rw [weightedSum?] at h
          split at h
          · rename_i hc
            have hrest := ih (by simpa using hlength) h
            simpa using ⟨hc, hrest⟩
          · cases h

theorem sum_weights_mod (body : List Char) :
    (∑ i ∈ range weights.length, digitValue (body.getD i '0') * weights.getD i 0) % 11 =
      powerSum body % 11 := by
  have hweights : ∀ i ∈ range 17, weights.getD i 0 % 11 = 2 ^ (17 - i) % 11 := by decide
  rw [powerSum, Finset.sum_nat_mod, Finset.sum_nat_mod (range 17)]
  refine congrArg (· % 11) (Finset.sum_congr rfl fun i hi => ?_)
  rw [Nat.mul_mod, hweights i hi, ← Nat.mul_mod, Nat.mul_comm]

theorem checkCharacter?_eq_some_iff {body : List Char} {c : Char} :
    checkCharacter? body = some c ↔ body.length = 17 ∧ (∀ d ∈ body, isDigit d = true) ∧
      IsCode c ∧ (powerSum body + codeValue c) % 11 = 1 := by
  constructor
  · intro h
    unfold checkCharacter? at h
    split at h
    · rename_i hbytes
      obtain ⟨n, hn, hget⟩ := Option.map_eq_some_iff.mp h
      have hle := Text.length_le_byteLength body
      -- Seventeen bytes are at most seventeen characters, so that none of them goes unread.
      have hbody := isDigit_of_weightedSum?_eq_some (hbytes ▸ hle) hn
      have hlength : body.length = weights.length := by
        rw [← hbytes, Text.byteLength_eq_length fun d hd => Text.utf8Size_of_isDigit (hbody d hd)]
      rw [weightedSum?_of_digits hbody 0 hlength, Nat.zero_add] at hn
      obtain ⟨hcode, hsum⟩ := (checkCodes_get_eq_iff _).mp hget
      refine ⟨hlength, hbody, hcode, ?_⟩
      rw [← Option.some.inj hn, sum_weights_mod, Nat.mod_add_mod] at hsum
      exact hsum
    · cases h
  · rintro ⟨hseventeen, hbody, hcode, hsum⟩
    have hlength : body.length = weights.length := hseventeen
    have hbytes : Text.byteLength body = weights.length := by
      rw [Text.byteLength_eq_length fun d hd => Text.utf8Size_of_isDigit (hbody d hd), hlength]
    unfold checkCharacter?
    rw [if_pos hbytes, weightedSum?_of_digits hbody 0 hlength, Option.map_some, Nat.zero_add]
    refine congrArg some ((checkCodes_get_eq_iff _).mpr ⟨hcode, ?_⟩)
    rw [sum_weights_mod, Nat.mod_add_mod]
    exact hsum

end FormCheck.IdentityNumber
