import FormCheck.Text.Bytes
import FormCheck.Text.Digits
import FormCheck.Text.Split
import Mathlib.Data.List.Induction
import Mathlib.Tactic.Ring

namespace FormCheck.Text

theorem isDigit_iff {c : Char} : isDigit c = true ↔ 48 ≤ c.toNat ∧ c.toNat ≤ 57 := by
  simp only [isDigit, Bool.and_eq_true, decide_eq_true_eq, Char.le_def, UInt32.le_iff_toNat_le]
  rfl

theorem toNat_eq_of_isDigit {c : Char} (hc : isDigit c = true) : c.toNat = 48 + digitValue c := by
  have hbounds := isDigit_iff.mp hc
  change c.toNat = 48 + (c.toNat - 48)
  omega

theorem digitValue_lt {c : Char} (hc : isDigit c = true) : digitValue c < 10 := by
  have hbounds := isDigit_iff.mp hc
  have hvalue := toNat_eq_of_isDigit hc
  omega

theorem eq_of_digitValue_eq {c d : Char} (hc : isDigit c = true) (hd : isDigit d = true)
    (h : digitValue c = digitValue d) : c = d := by
  apply Char.toNat_inj.mp
  rw [toNat_eq_of_isDigit hc, toNat_eq_of_isDigit hd, h]

theorem eq_iff_digitValue_eq {c d : Char} (hd : isDigit d = true) :
    c = d ↔ isDigit c = true ∧ digitValue c = digitValue d := by
  constructor
  · rintro rfl
    exact ⟨hd, rfl⟩
  · rintro ⟨hc, h⟩
    exact eq_of_digitValue_eq hc hd h

theorem utf8Size_eq_one {c : Char} (hc : c.toNat ≤ 127) : c.utf8Size = 1 := by
  rw [Char.utf8Size_eq_one_iff, UInt32.le_iff_toNat_le]
  exact hc

theorem utf8Size_of_isDigit {c : Char} (hc : isDigit c = true) : c.utf8Size = 1 := by
  have hbounds := isDigit_iff.mp hc
  exact utf8Size_eq_one (by omega)

theorem isNumeral_iff {s : List Char} :
    isNumeral s = true ↔ s ≠ [] ∧ ∀ c ∈ s, isDigit c = true := by
  simp [isNumeral]

theorem not_mem_of_all {p : Char → Bool} {s : List Char} (h : ∀ d ∈ s, p d = true) {c : Char}
    (hc : p c = false) : c ∉ s := by
  intro hmem
  rw [h c hmem] at hc
  cases hc

theorem not_mem_of_isNumeral {s : List Char} (hs : isNumeral s = true) {c : Char}
    (hc : isDigit c = false) : c ∉ s :=
  not_mem_of_all (isNumeral_iff.mp hs).2 hc

theorem decimal_two (a b : Char) : decimal [a, b] = 10 * digitValue a + digitValue b := by
  simp [decimal, decimalFrom]

theorem decimal_four (a b c d : Char) :
    decimal [a, b, c, d] =
      1000 * digitValue a + 100 * digitValue b + 10 * digitValue c + digitValue d := by
  simp only [decimal, decimalFrom, List.foldl_cons, List.foldl_nil]
  ring

theorem decimal_lt_pow {s : List Char} (hs : ∀ c ∈ s, isDigit c = true) :
    decimal s < 10 ^ s.length := by
  induction s using List.reverseRecOn with
  | nil => simp
  | append_singleton s c ih =>
      have hc : digitValue c < 10 := digitValue_lt (hs c (by simp))
      have hih := ih fun d hd => hs d (by simp [hd])
      rw [decimal_concat, List.length_append, List.length_singleton, pow_succ]
      omega

theorem isNumeral_toDigits (n : Nat) : isNumeral (Nat.toDigits 10 n) = true := by
  refine isNumeral_iff.mpr ⟨Nat.toDigits_ne_nil, fun c hc => ?_⟩
  have hdigit := Nat.isDigit_of_mem_toDigits (by decide) (by decide) hc
  simpa [isDigit, Char.isDigit, Char.le_def] using hdigit

theorem decimal_toDigits (n : Nat) : decimal (Nat.toDigits 10 n) = n :=
  Nat.ofDigitChars_ten_toDigits

theorem isNumeral_toString (n : Nat) : isNumeral (toString n).toList = true := by
  rw [Nat.toString_eq_repr, Nat.toList_repr]
  exact isNumeral_toDigits n

theorem isDigit_of_mem_toString {n : Nat} {c : Char} (hc : c ∈ (toString n).toList) :
    isDigit c = true :=
  (isNumeral_iff.mp (isNumeral_toString n)).2 c hc

theorem decimal_toString (n : Nat) : decimal (toString n).toList = n := by
  rw [Nat.toString_eq_repr, Nat.toList_repr, decimal_toDigits]

theorem splitOn_eq_splitOnP (separates : Char → Bool) (s : List Char) :
    splitOn separates s = s.splitOnP separates := by
  induction s with
  | nil => rfl
  | cons c s ih =>
      rw [List.splitOnP_cons_eq_if_modifyHead, splitOn]
      split
      · rw [ih]
      · rw [← ih]
        cases h : splitOn separates s with
        | nil => exact absurd h (splitOn_ne_nil separates s)
        | cons piece pieces => rfl

theorem not_mem_of_mem_splitOn {x : Char} {s piece : List Char}
    (h : piece ∈ splitOn (· == x) s) : x ∉ piece := by
  intro hmem
  simpa using separates_eq_false_of_mem_splitOn h x hmem

theorem splitOn_eq_iff {x : Char} {s : List Char} {pieces : List (List Char)}
    (hpieces : ∀ piece ∈ pieces, x ∉ piece) (hne : pieces ≠ []) :
    splitOn (· == x) s = pieces ↔ s = [x].intercalate pieces := by
  rw [splitOn_eq_splitOnP, ← List.splitOn_eq_splitOnP]
  constructor
  · rintro rfl
    exact (List.intercalate_splitOn x).symm
  · rintro rfl
    exact List.splitOn_intercalate x hpieces hne

theorem splitOn_eq_cons_iff {x : Char} {s piece : List Char} {pieces : List (List Char)}
    (hpieces : ∀ t ∈ piece :: pieces, x ∉ t) :
    splitOn (· == x) s = piece :: pieces ↔ s = piece ++ (pieces.map (x :: ·)).flatten := by
  have hjoin : [x].intercalate (piece :: pieces) = piece ++ (pieces.map (x :: ·)).flatten := by
    clear hpieces
    induction pieces generalizing piece with
    | nil => simp
    | cons next pieces ih => simp [List.intercalate_cons_cons, ih]
  rw [splitOn_eq_iff hpieces (List.cons_ne_nil _ _), hjoin]

theorem exists_splitOn_eq_cons (x : Char) (s : List Char) :
    ∃ piece pieces, splitOn (· == x) s = piece :: pieces ∧
      s = piece ++ (pieces.map (x :: ·)).flatten ∧ ∀ t ∈ piece :: pieces, x ∉ t := by
  obtain ⟨piece, pieces, hpieces⟩ := List.exists_cons_of_ne_nil (splitOn_ne_nil (· == x) s)
  have hnot : ∀ t ∈ piece :: pieces, x ∉ t := by
    rw [← hpieces]
    exact fun t => not_mem_of_mem_splitOn
  exact ⟨piece, pieces, hpieces, (splitOn_eq_cons_iff hnot).mp hpieces, hnot⟩

/-- The text before the first place of a character, or all of it. -/
def before (x : Char) (s : List Char) : List Char :=
  s.takeWhile (· != x)

/-- The text behind the first place of a character, which is empty if there is no such place. -/
def behind (x : Char) (s : List Char) : List Char :=
  (s.dropWhile (· != x)).tail

theorem bne_of_not_mem {x : Char} {s : List Char} (h : x ∉ s) : ∀ c ∈ s, (c != x) = true := by
  intro c hc
  rw [bne_iff_ne]
  rintro rfl
  exact h hc

theorem before_append {x : Char} {s : List Char} (h : x ∉ s) (t : List Char) :
    before x (s ++ x :: t) = s := by
  rw [before, List.takeWhile_append_of_pos (bne_of_not_mem h), List.takeWhile_cons_of_neg (by simp),
    List.append_nil]

theorem behind_append {x : Char} {s : List Char} (h : x ∉ s) (t : List Char) :
    behind x (s ++ x :: t) = t := by
  rw [behind, List.dropWhile_append_of_pos (bne_of_not_mem h), List.dropWhile_cons_of_neg (by simp),
    List.tail_cons]

theorem before_append_behind {x : Char} {s : List Char} (h : x ∈ s) :
    before x s ++ x :: behind x s = s := by
  obtain ⟨t, u, rfl, ht⟩ := List.eq_append_cons_of_mem h
  rw [before_append ht, behind_append ht]

end FormCheck.Text
