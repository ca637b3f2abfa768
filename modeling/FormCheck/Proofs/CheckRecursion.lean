import FormCheck.Proofs.IdentityVerdict
import Mathlib.Algebra.BigOperators.Ring.Finset
import Mathlib.Data.Nat.ModEq
import Mathlib.Tactic.Ring

/-!
The check character by the recursion of the system MOD 11-2. The recursion takes one digit after the
other and doubles, while the table of weights takes a sum. Both come to the same remainder, and so
to the same check character for all runs of seventeen digits, which are the texts that have one.
-/

namespace FormCheck.IdentityNumber

open Finset (range)
open Text (isDigit digitValue)

variable {s front back : List Char} {sum n : Nat} {ws : List Nat}

/-- What one digit makes of the remainder: it is added, and the sum is doubled modulo eleven. -/
def nextRemainder (p : Nat) (c : Char) : Nat :=
  2 * (p + digitValue c) % 11

/-- The remainder after a run of digits, from the remainder before it. -/
def remainderFrom (p : Nat) (s : List Char) : Nat :=
  s.foldl nextRemainder p

/-- The remainder after a whole text, from none before it. -/
def remainder (s : List Char) : Nat :=
  remainderFrom 0 s

/-- The character that stands for a number up to ten. -/
def codeOf (n : Nat) : Char :=
  if n = 10 then 'X' else Nat.digitChar n

theorem isCode_codeOf (hn : n < 11) : IsCode (codeOf n) ∧ codeValue (codeOf n) = n := by
  have htable : ∀ n < 11, IsCode (codeOf n) ∧ codeValue (codeOf n) = n := by decide
  exact htable n hn

theorem nextRemainder_modEq (p : Nat) (c : Char) :
    nextRemainder p c ≡ 2 * (p + digitValue c) [MOD 11] :=
  Nat.mod_modEq _ 11

/-- Every digit is doubled once for each digit from it on, and what was there before the run once
for each digit of the run. -/
theorem remainderFrom_modEq (p : Nat) (s : List Char) :
    remainderFrom p s ≡ 2 ^ s.length * p +
      ∑ i ∈ range s.length, 2 ^ (s.length - i) * digitValue (s.getD i '0') [MOD 11] := by
  induction s generalizing p with
  | nil => simp [remainderFrom, Nat.ModEq.refl]
  | cons c s ih =>
      -- The first digit goes through all the doublings that what was there before goes through.
      have hstart : 2 ^ s.length * nextRemainder p c ≡
          2 ^ (s.length + 1) * p + 2 ^ (s.length + 1) * digitValue c [MOD 11] := by
        have hpower : 2 ^ s.length * (2 * (p + digitValue c)) =
            2 ^ (s.length + 1) * p + 2 ^ (s.length + 1) * digitValue c := by ring
        rw [← hpower]
        exact (nextRemainder_modEq p c).mul_left _
      rw [List.length_cons, Finset.sum_range_succ']
      simp only [List.getD_cons_succ, List.getD_cons_zero, Nat.add_sub_add_right, Nat.sub_zero]
      refine ((ih (nextRemainder p c)).trans (hstart.add_right _)).trans ?_
      rw [Nat.add_assoc, Nat.add_comm (2 ^ (s.length + 1) * digitValue c)]

theorem remainder_lt (s : List Char) : remainder s < 11 := by
  rcases s.eq_nil_or_concat' with rfl | ⟨front, c, rfl⟩
  · decide
  · rw [remainder, remainderFrom, List.foldl_append]
    exact Nat.mod_lt _ (by decide)

theorem remainder_modEq_powerSum (hs : s.length = 17) : remainder s ≡ powerSum s [MOD 11] := by
  have h := remainderFrom_modEq 0 s
  rwa [Nat.mul_zero, Nat.zero_add, hs] at h

theorem weightedSum?_append (sum : Nat) (front back : List Char) (ws : List Nat) :
    weightedSum? sum (front ++ back) ws =
      (weightedSum? sum front ws).bind fun n => weightedSum? n back (ws.drop front.length) := by
  induction front generalizing sum ws with
  | nil => simp [weightedSum?]
  | cons c front ih =>
      cases ws with
      | nil => simp [weightedSum?]
      | cons w ws =>
          rw [List.cons_append, weightedSum?, weightedSum?]
          split
          · exact ih _ ws
          · rfl

theorem weightedSum?_le (h : weightedSum? sum s ws = some n) : n ≤ sum + 9 * ws.sum := by
  induction s generalizing sum ws with
  | nil =>
      obtain rfl : sum = n := by simpa [weightedSum?] using h
      exact Nat.le_add_right _ _
  | cons c s ih =>
      cases ws with
      | nil =>
          obtain rfl : sum = n := by simpa [weightedSum?] using h
          exact Nat.le_add_right _ _
      | cons w ws =>
          rw [weightedSum?] at h
          split at h
          · rename_i hc
            have hn := ih h
            have hdigit : digitValue c ≤ 9 := Nat.le_of_lt_succ (Text.digitValue_lt hc)
            have hterm : digitValue c * w ≤ 9 * w := Nat.mul_le_mul_right w hdigit
            rw [List.sum_cons]
            omega
          · cases h

theorem weightedSum?_front_lt (h : weightedSum? 0 front weights = some n) : n < 2 ^ 32 := by
  have hle := weightedSum?_le h
  have htotal : weights.sum = 100 := by decide
  omega

theorem checkCharacter?_of_digits (hlength : s.length = 17) (hdigits : ∀ c ∈ s, isDigit c = true) :
    checkCharacter? s = some (codeOf ((12 - remainder s) % 11)) := by
  have hlt := remainder_lt s
  obtain ⟨hcode, hvalue⟩ := isCode_codeOf (Nat.mod_lt (12 - remainder s) (by decide : 11 > 0))
  have hsame : remainder s % 11 = powerSum s % 11 := remainder_modEq_powerSum hlength
  refine checkCharacter?_eq_some_iff.mpr ⟨hlength, hdigits, hcode, ?_⟩
  rw [hvalue]
  omega

theorem isSome_checkCharacter?_iff :
    (checkCharacter? s).isSome = true ↔ s.length = 17 ∧ ∀ c ∈ s, isDigit c = true := by
  constructor
  · intro h
    obtain ⟨c, hc⟩ := Option.isSome_iff_exists.mp h
    obtain ⟨hlength, hdigits, -⟩ := checkCharacter?_eq_some_iff.mp hc
    exact ⟨hlength, hdigits⟩
  · rintro ⟨hlength, hdigits⟩
    rw [checkCharacter?_of_digits hlength hdigits]
    rfl

theorem exists_weightedSum?_of_checkCharacter? {c : Char} (h : checkCharacter? s = some c) :
    ∃ n, weightedSum? 0 s weights = some n ∧ checkCodes[n % 11]? = some c := by
  unfold checkCharacter? at h
  split at h
  · obtain ⟨n, hn, hget⟩ := Option.map_eq_some_iff.mp h
    refine ⟨n, hn, ?_⟩
    rw [List.getElem?_eq_getElem (mod_lt_length_checkCodes n)]
    exact congrArg some hget
  · cases h

/-- Exactly the texts of seventeen digits have a check character, so that no text with a character
of several bytes has one, whatever its length in bytes is. It is the code for what the remainder by
the recursion lacks of one. The loop that adds up the weighted digits goes on from its sum after any
front of the text. That sum fits a word of 32 bits, and the last one finds a code in the table. -/
theorem check_character_by_recursion (s : String) :
    ((checkCharacter? s.toList).isSome = true ↔
      s.toList.length = 17 ∧ ∀ c ∈ s.toList, isDigit c = true) ∧
    ((∃ c ∈ s.toList, c.utf8Size ≠ 1) → checkCharacter? s.toList = none) ∧
    (∀ c, checkCharacter? s.toList = some c →
      c = codeOf ((12 - remainder s.toList) % 11) ∧
      ∃ n, weightedSum? 0 s.toList weights = some n ∧ checkCodes[n % 11]? = some c) ∧
    ∀ front back, s.toList = front ++ back →
      weightedSum? 0 s.toList weights = (weightedSum? 0 front weights).bind (fun n =>
        weightedSum? n back (weights.drop front.length)) ∧
      ∀ n, weightedSum? 0 front weights = some n → n < 2 ^ 32 := by
  refine ⟨isSome_checkCharacter?_iff, ?_, ?_, ?_⟩
  · rintro ⟨c, hmem, hbytes⟩
    rw [← Option.not_isSome_iff_eq_none, isSome_checkCharacter?_iff]
    rintro ⟨-, hdigits⟩
    exact hbytes (Text.utf8Size_of_isDigit (hdigits c hmem))
  · intro c hc
    obtain ⟨hlength, hdigits, -⟩ := checkCharacter?_eq_some_iff.mp hc
    have hcode := checkCharacter?_of_digits hlength hdigits
    rw [hc] at hcode
    exact ⟨Option.some.inj hcode, exists_weightedSum?_of_checkCharacter? hc⟩
  · intro front back hs
    rw [hs]
    exact ⟨weightedSum?_append 0 front back weights, fun n => weightedSum?_front_lt⟩

theorem check_character_by_recursion_capital_x :
    let s := "11010519491231002"
    let t := "110105194912310é"
    remainder s.toList = 2 ∧ checkCharacter? s.toList = some 'X' ∧
      (∃ n, weightedSum? 0 s.toList weights = some n ∧ n < 2 ^ 32 ∧
        checkCodes[n % 11]? = some 'X') ∧
      Text.byteLength t.toList = 17 ∧ checkCharacter? t.toList = none := by
  intro s t
  obtain ⟨hsome, -, hcode, hfronts⟩ := check_character_by_recursion s
  obtain ⟨-, hnone, -⟩ := check_character_by_recursion t
  have hremainder : remainder s.toList = 2 := by decide
  have hdigits : ∀ c ∈ s.toList, isDigit c = true := List.all_eq_true.mp (by decide)
  obtain ⟨c, hc⟩ := Option.isSome_iff_exists.mp (hsome.mpr ⟨by decide, hdigits⟩)
  obtain ⟨hvalue, n, hn, hget⟩ := hcode c hc
  have hx : c = 'X' := by
    rw [hvalue, hremainder]
    rfl
  obtain ⟨-, hsmall⟩ := hfronts s.toList [] (by simp)
  subst hx
  exact ⟨hremainder, hc, ⟨n, hn, hsmall n hn, hget⟩, by decide, hnone ⟨'é', by decide, by decide⟩⟩

end FormCheck.IdentityNumber
