import FormCheck.DisplayWidth
import Mathlib.Algebra.BigOperators.Group.List.Basic
import Mathlib.Algebra.Ring.Nat

namespace FormCheck

/-- A character from the capital alpha to the fullwidth yen sign. -/
def IsWide (c : Char) : Prop :=
  0x391 ≤ c.toNat ∧ c.toNat ≤ 0xFFE5

instance : DecidablePred IsWide := fun _ => inferInstanceAs (Decidable (_ ∧ _))

theorem charWidth_eq (c : Char) : charWidth c = if IsWide c then 2 else 1 := by
  have hwide : wideRanges.contains c = true ↔ IsWide c := by
    rw [Text.CodeRanges.contains_iff]
    simp [wideRanges, IsWide]
  rw [charWidth]
  simp only [hwide]

theorem displayWidth_eq_sum (s : String) : displayWidth s = (s.toList.map charWidth).sum := by
  rw [displayWidth, List.sum_eq_foldr, List.foldr_map]

theorem sum_charWidth (s : List Char) :
    (s.map charWidth).sum = s.length + s.countP (IsWide ·) := by
  induction s with
  | nil => rfl
  | cons c s ih =>
      rw [List.map_cons, List.sum_cons, ih, List.length_cons, List.countP_cons, charWidth_eq]
      by_cases hc : IsWide c
      · rw [if_pos hc, if_pos (decide_eq_true hc)]
        omega
      · rw [if_neg hc, if_neg (by simpa using hc)]
        omega

theorem displayWidth_eq (s : String) :
    displayWidth s = s.length + s.toList.countP (IsWide ·) := by
  rw [displayWidth_eq_sum, sum_charWidth, String.length_toList]

theorem displayWidth_append (s t : String) :
    displayWidth (s ++ t) = displayWidth s + displayWidth t := by
  simp only [displayWidth_eq_sum, String.toList_append, List.map_append, List.sum_append]

theorem displayWidth_le (s : String) : displayWidth s ≤ 2 * s.length := by
  have hwide : s.toList.countP (IsWide ·) ≤ s.toList.length := List.countP_le_length
  rw [String.length_toList] at hwide
  rw [displayWidth_eq]
  omega

theorem displayWidth_congr {s t : String} (h : s.toList.Perm t.toList) :
    displayWidth s = displayWidth t := by
  rw [displayWidth_eq_sum, displayWidth_eq_sum, (h.map charWidth).sum_eq]

/-- The sum of two words, if a word is wide enough for it. -/
def addWords? (a b : UInt64) : Option UInt64 :=
  if a.toNat + b.toNat < 2 ^ 64 then some (a + b) else none

/-- The width of a run of characters on top of the width of those before, added up in words. There
is none if one of the additions overflows. -/
def wordWidthFrom? (sum : UInt64) (s : List Char) : Option UInt64 :=
  s.foldlM (fun sum c => addWords? sum (UInt64.ofNat (charWidth c))) sum

/-- The width of a text, added up in words of 64 bits. -/
def wordWidth? (s : String) : Option UInt64 :=
  wordWidthFrom? 0 s.toList

theorem addWords?_eq_some_iff {a b w : UInt64} :
    addWords? a b = some w ↔ w.toNat = a.toNat + b.toNat := by
  have hw := w.toNat_lt
  rw [addWords?]
  by_cases hfits : a.toNat + b.toNat < 2 ^ 64
  · rw [if_pos hfits, Option.some.injEq, ← UInt64.toNat_inj, UInt64.toNat_add,
      Nat.mod_eq_of_lt hfits, eq_comm]
  · rw [if_neg hfits]
    constructor
    · intro hnone
      cases hnone
    · omega

theorem toNat_charWidth (c : Char) : (UInt64.ofNat (charWidth c)).toNat = charWidth c := by
  rw [charWidth_eq]
  split <;> rfl

theorem wordWidthFrom?_eq_some_iff {sum w : UInt64} {s : List Char} :
    wordWidthFrom? sum s = some w ↔ w.toNat = sum.toNat + (s.map charWidth).sum := by
  induction s generalizing sum with
  | nil =>
      rw [wordWidthFrom?, List.foldlM_nil, List.map_nil, List.sum_nil, Nat.add_zero,
        UInt64.toNat_inj, eq_comm]
      exact Option.some_inj
  | cons c s ih =>
      have hstep : wordWidthFrom? sum (c :: s) =
          (addWords? sum (UInt64.ofNat (charWidth c))).bind (wordWidthFrom? · s) := rfl
      rw [hstep, Option.bind_eq_some_iff, List.map_cons, List.sum_cons]
      simp only [addWords?_eq_some_iff, toNat_charWidth, ih]
      constructor
      · rintro ⟨next, hnext, hw⟩
        omega
      · intro hw
        have hlt := w.toNat_lt
        have hfits : sum.toNat + charWidth c < 2 ^ 64 := by omega
        have hnext : (UInt64.ofNat (sum.toNat + charWidth c)).toNat = sum.toNat + charWidth c :=
          UInt64.toNat_ofNat_of_lt' hfits
        exact ⟨_, hnext, by omega⟩

theorem exists_wordWidth? {s : String} (hs : s.length < 2 ^ 63) :
    ∃ w, wordWidth? s = some w ∧ w.toNat = displayWidth s := by
  have hle := displayWidth_le s
  have hfits : displayWidth s < 2 ^ 64 := by omega
  have hword : (UInt64.ofNat (displayWidth s)).toNat = displayWidth s :=
    UInt64.toNat_ofNat_of_lt' hfits
  refine ⟨UInt64.ofNat (displayWidth s), ?_, hword⟩
  rw [wordWidth?, wordWidthFrom?_eq_some_iff, hword, displayWidth_eq_sum, UInt64.toNat_zero,
    Nat.zero_add]

/-- The width of two texts after one another is the sum of their widths. The width of a text is the
number of its characters and, once more, of its wide ones. So it lies between that number and twice
that number, and stays the same in any order of the characters. Added up in words it is the same as
well, without any addition that overflows, as long as there are fewer than 2 ^ 63 characters. -/
theorem displayWidth_is_additive (s t : String) :
    displayWidth (s ++ t) = displayWidth s + displayWidth t ∧
    displayWidth s = s.length + s.toList.countP (IsWide ·) ∧
    s.length ≤ displayWidth s ∧ displayWidth s ≤ 2 * s.length ∧
    (s.toList.Perm t.toList → displayWidth s = displayWidth t) ∧
    (s.length < 2 ^ 63 → ∃ w, wordWidth? s = some w ∧ w.toNat = displayWidth s) := by
  refine ⟨displayWidth_append s t, displayWidth_eq s, ?_, displayWidth_le s, displayWidth_congr,
    exists_wordWidth?⟩
  rw [displayWidth_eq]
  exact Nat.le_add_right _ _

theorem displayWidth_is_additive_at_ends :
    let s := "\u0390\u0391\uFFE5\uFFE6"
    let t := "\uFFE6\uFFE5\u0391\u0390"
    s.toList.Perm t.toList ∧ s.length < 2 ^ 63 ∧ displayWidth s = 6 ∧ displayWidth t = 6 ∧
      displayWidth (s ++ t) = 12 ∧ wordWidth? s = some 6 := by
  intro s t
  have hperm : s.toList.Perm t.toList := by decide
  have hlength : s.length < 2 ^ 63 := by decide
  obtain ⟨happend, hcount, -, -, horder, hwords⟩ := displayWidth_is_additive s t
  have hwidth : displayWidth s = 6 := by
    rw [hcount]
    decide
  obtain ⟨w, hw, hvalue⟩ := hwords hlength
  have hsix : w = 6 := by
    rw [← UInt64.toNat_inj, hvalue, hwidth]
    rfl
  refine ⟨hperm, hlength, hwidth, ?_, ?_, ?_⟩
  · rw [← horder hperm, hwidth]
  · rw [happend, ← horder hperm, hwidth]
  · rw [hw, hsix]

end FormCheck
