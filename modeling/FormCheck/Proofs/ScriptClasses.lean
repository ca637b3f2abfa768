import FormCheck.Proofs.DisplayWidths
import FormCheck.Proofs.FixedLength
import FormCheck.Proofs.LocaleTags

namespace FormCheck

open Text (isBlank isDigit)

namespace Pattern

open SetItem (span blank)

/-- Whether a pattern is found at some place of a text, with anything before it and behind it. -/
def OccursIn (p : Pattern) (s : List Char) : Prop :=
  ∃ found, found <:+: s ∧ Accepts p found

def letter : Pattern := .one (.among [span 'A' 'Z', span 'a' 'z'])

/-- Any character but letters and blanks. -/
def nonEnglish : Pattern := .one (.outside [span 'A' 'Z', span 'a' 'z', blank])

def nonEnglishOrDigit : Pattern :=
  .one (.outside [span 'A' 'Z', span 'a' 'z', span '0' '9', blank])

/-- Any character but the ideographs of the first block. -/
def nonIdeograph : Pattern := .one (.outside [span '\u4E00' '\u9FA5'])

variable {set : CharSet} {items : List SetItem} {s : List Char}

theorem occursIn_one_iff : OccursIn (.one set) s ↔ ∃ c ∈ s, set.contains c = true := by
  constructor
  · rintro ⟨found, hfound, haccepts⟩
    obtain ⟨c, hc, rfl⟩ := accepts_one_iff.mp haccepts
    exact ⟨c, hfound.subset (List.mem_singleton_self c), hc⟩
  · rintro ⟨c, hmem, hc⟩
    obtain ⟨front, back, rfl⟩ := List.append_of_mem hmem
    exact ⟨[c], ⟨front, back, by simp⟩, .one hc⟩

theorem not_occursIn_outside_iff {p : Char → Bool}
    (hset : ∀ c, (CharSet.among items).contains c = p c) :
    ¬OccursIn (.one (.outside items)) s ↔ ∀ c ∈ s, p c = true := by
  have houtside : ∀ c, (CharSet.outside items).contains c = !p c := by
    intro c
    rw [← hset]
    rfl
  rw [occursIn_one_iff]
  simp [houtside]

theorem contains_letterSet (c : Char) :
    (CharSet.among [span 'A' 'Z', span 'a' 'z']).contains c = isLetter c := by
  simp [CharSet.contains, SetItem.contains, isLetter, Bool.or_comm]

theorem contains_englishSet (c : Char) :
    (CharSet.among [span 'A' 'Z', span 'a' 'z', blank]).contains c =
      (isLetter c || isBlank c) := by
  rw [← contains_letterSet]
  simp [CharSet.contains, SetItem.contains, Bool.or_assoc]

theorem contains_englishOrDigitSet (c : Char) :
    (CharSet.among [span 'A' 'Z', span 'a' 'z', span '0' '9', blank]).contains c =
      (isLetter c || isDigit c || isBlank c) := by
  rw [← contains_letterSet]
  simp [CharSet.contains, SetItem.contains, isDigit, Bool.or_assoc]

theorem contains_ideographSet (c : Char) :
    (CharSet.among [span '\u4E00' '\u9FA5']).contains c = isIdeograph c := by
  simp [CharSet.contains, SetItem.contains, isIdeograph, Char.le_def, UInt32.le_iff_toNat_le]

end Pattern

variable {s : String} {c : Char}

/-- What is left of a text when all characters are deleted that `p` does not pick. -/
def keeping (p : Char → Bool) (s : String) : String :=
  String.ofList (s.toList.filter p)

theorem keeping_eq_self_iff {p : Char → Bool} : keeping p s = s ↔ ∀ c ∈ s.toList, p c = true := by
  rw [keeping, ← String.toList_inj, String.toList_ofList, List.filter_eq_self]

theorem isAlpha_eq (c : Char) : c.isAlpha = isLetter c := by
  rw [Bool.eq_iff_iff, isLetter_iff]
  change (decide (65 ≤ c.val ∧ c.val ≤ 90) ||
    (decide (97 ≤ c.val) && decide (c.val ≤ 122))) = true ↔ _
  simp only [Bool.or_eq_true, Bool.and_eq_true, decide_eq_true_eq, UInt32.le_iff_toNat_le]
  exact or_comm

theorem isDigit_eq (c : Char) : c.isDigit = isDigit c := by
  rw [Bool.eq_iff_iff, Text.isDigit_iff]
  simp only [Char.isDigit, Bool.and_eq_true, decide_eq_true_eq, UInt32.le_iff_toNat_le, ge_iff_le]
  rfl

theorem isAlphanum_eq (c : Char) : c.isAlphanum = (isLetter c || isDigit c) := by
  rw [Char.isAlphanum, isAlpha_eq, isDigit_eq]

theorem isIdeograph_iff : isIdeograph c = true ↔ 0x4E00 ≤ c.toNat ∧ c.toNat ≤ 0x9FA5 := by
  simp [isIdeograph]

theorem isWide_of_isIdeograph (hc : isIdeograph c = true) : IsWide c := by
  have hcode := isIdeograph_iff.mp hc
  exact ⟨by omega, by omega⟩

theorem toNat_le_of_isBlank (hc : isBlank c = true) : c.toNat ≤ 0x3000 := by
  by_contra hcode
  rw [Text.isBlank_eq_false (.inr (by omega))] at hc
  cases hc

theorem toNat_lt_of_isLetter_or_isBlank (hc : (isLetter c || isBlank c) = true) :
    c.toNat < 0x4E00 := by
  rcases Bool.or_eq_true_iff.mp hc with hletter | hblank
  · have hcode := isLetter_iff.mp hletter
    omega
  · have hcode := toNat_le_of_isBlank hblank
    omega

theorem isLetter_or_isBlank_eq_false (hc : isDigit c = true) :
    (isLetter c || isBlank c) = false := by
  have hcode := Text.isDigit_iff.mp hc
  have hletter : isLetter c = false := by
    rw [← Bool.not_eq_true, isLetter_iff]
    omega
  rw [hletter, Text.isBlank_eq_false (by omega), Bool.or_self]

theorem isEnglish_iff :
    isEnglish s = true ↔ ∀ c ∈ s.toList, (isLetter c || isBlank c) = true :=
  List.all_eq_true

theorem isEnglishAndNumber_iff :
    isEnglishAndNumber s = true ↔ (∃ c ∈ s.toList, isLetter c = true) ∧
      (∃ c ∈ s.toList, isDigit c = true) ∧
        ∀ c ∈ s.toList, (isLetter c || isDigit c || isBlank c) = true := by
  rw [isEnglishAndNumber, Bool.and_eq_true, Bool.and_eq_true, List.any_eq_true, List.any_eq_true,
    List.all_eq_true, and_assoc]

theorem isChinese_iff : isChinese s = true ↔ ∀ c ∈ s.toList, isIdeograph c = true :=
  List.all_eq_true

theorem not_isEnglish_of_isDigit (hmem : c ∈ s.toList) (hc : isDigit c = true) :
    ¬isEnglish s = true := by
  intro henglish
  have hnot := isLetter_or_isBlank_eq_false hc
  rw [isEnglish_iff.mp henglish c hmem] at hnot
  cases hnot

theorem not_isChinese_of_lt (hmem : c ∈ s.toList) (hc : c.toNat < 0x4E00) :
    ¬isChinese s = true := by
  intro hchinese
  have hcode := isIdeograph_iff.mp (isChinese_iff.mp hchinese c hmem)
  omega

theorem displayWidth_of_isChinese (h : isChinese s = true) : displayWidth s = 2 * s.length := by
  have hwide : s.toList.countP (IsWide ·) = s.toList.length := by
    rw [List.countP_eq_length]
    intro c hc
    exact decide_eq_true (isWide_of_isIdeograph (isChinese_iff.mp h c hc))
  rw [displayWidth_eq, hwide, String.length_toList]
  omega

/-- A value is English if nothing but letters and blanks is found in it, and that is so if deleting
everything else leaves it as it is. The same holds of the rule that asks for a letter and a digit
besides, and of the rule for ideographs, each of which takes two columns. A value that is not empty
is passed by one of the rules at most. -/
theorem scripts_told_by_deletion (s : String) :
    ((isEnglish s = true ↔ ¬Pattern.nonEnglish.OccursIn s.toList) ∧
      (isEnglish s = true ↔ keeping (fun c => c.isAlpha || isBlank c) s = s)) ∧
    ((isEnglishAndNumber s = true ↔ Pattern.letter.OccursIn s.toList ∧
        Pattern.digit.OccursIn s.toList ∧ ¬Pattern.nonEnglishOrDigit.OccursIn s.toList) ∧
      (isEnglishAndNumber s = true ↔ (∃ c ∈ s.toList, c.isAlpha = true) ∧
        (∃ c ∈ s.toList, c.isDigit = true) ∧
          keeping (fun c => c.isAlphanum || isBlank c) s = s)) ∧
    ((isChinese s = true ↔ ¬Pattern.nonIdeograph.OccursIn s.toList) ∧
      (isChinese s = true ↔ keeping (fun c => 0x4E00 ≤ c.toNat && c.toNat ≤ 0x9FA5) s = s) ∧
      (isChinese s = true → displayWidth s = 2 * s.length)) ∧
    (s ≠ "" → ¬(isEnglish s = true ∧ isEnglishAndNumber s = true) ∧
      ¬(isEnglish s = true ∧ isChinese s = true) ∧
      ¬(isEnglishAndNumber s = true ∧ isChinese s = true)) := by
  refine ⟨⟨?_, ?_⟩, ⟨?_, ?_⟩, ⟨?_, ?_, displayWidth_of_isChinese⟩, fun hs => ⟨?_, ?_, ?_⟩⟩
  · rw [isEnglish_iff, Pattern.nonEnglish,
      Pattern.not_occursIn_outside_iff Pattern.contains_englishSet]
  · rw [isEnglish_iff, keeping_eq_self_iff]
    simp only [isAlpha_eq]
  · rw [isEnglishAndNumber_iff, Pattern.letter, Pattern.digit, Pattern.nonEnglishOrDigit,
      Pattern.occursIn_one_iff, Pattern.occursIn_one_iff,
      Pattern.not_occursIn_outside_iff Pattern.contains_englishOrDigitSet]
    simp only [Pattern.contains_letterSet, Pattern.contains_digitSet]
  · rw [isEnglishAndNumber_iff, keeping_eq_self_iff]
    simp only [isAlpha_eq, isDigit_eq, isAlphanum_eq]
  · rw [isChinese_iff, Pattern.nonIdeograph,
      Pattern.not_occursIn_outside_iff Pattern.contains_ideographSet]
  · rw [isChinese_iff, keeping_eq_self_iff]
    rfl
  · rintro ⟨henglish, hboth⟩
    obtain ⟨-, ⟨c, hmem, hdigit⟩, -⟩ := isEnglishAndNumber_iff.mp hboth
    exact not_isEnglish_of_isDigit hmem hdigit henglish
  · rintro ⟨henglish, hchinese⟩
    obtain ⟨c, hmem⟩ := List.exists_mem_of_ne_nil _ (mt String.toList_eq_nil_iff.mp hs)
    have hcode := toNat_lt_of_isLetter_or_isBlank (isEnglish_iff.mp henglish c hmem)
    exact not_isChinese_of_lt hmem hcode hchinese
  · rintro ⟨hboth, hchinese⟩
    obtain ⟨-, ⟨c, hmem, hdigit⟩, -⟩ := isEnglishAndNumber_iff.mp hboth
    have hcode := Text.isDigit_iff.mp hdigit
    exact not_isChinese_of_lt hmem (by omega) hchinese

theorem scripts_told_by_deletion_of_ideographs :
    let s := "\u4E00\u9FA5"
    s ≠ "" ∧ isChinese s = true ∧ displayWidth s = 4 ∧ ¬isEnglish s = true ∧
      ¬isEnglishAndNumber s = true := by
  intro s
  have hne : s ≠ "" := by decide
  obtain ⟨-, -, ⟨-, hkept, hwidth⟩, hexclude⟩ := scripts_told_by_deletion s
  obtain ⟨-, henglish, hboth⟩ := hexclude hne
  have hchinese : isChinese s = true := hkept.mpr (by decide)
  have hfour : displayWidth s = 4 := (hwidth hchinese).trans (by decide)
  exact ⟨hne, hchinese, hfour, fun h => henglish ⟨h, hchinese⟩, fun h => hboth ⟨h, hchinese⟩⟩

end FormCheck
