import FormCheck.Proofs.Numerals
import FormCheck.Settings.Basic
import Mathlib.Data.List.DropRight

namespace FormCheck

open Text (isBlank isDigit)

namespace Text

/-- A text that begins with a piece and goes on with others, each behind its separator. -/
def joined (piece : List Char) (groups : List (Char × List Char)) : List Char :=
  piece ++ (groups.map fun group => group.1 :: group.2).flatten

theorem joined_cons (piece : List Char) (group : Char × List Char)
    (groups : List (Char × List Char)) :
    joined piece (group :: groups) = piece ++ group.1 :: joined group.2 groups := by
  simp [joined]

variable {separates : Char → Bool} {piece : List Char} {groups : List (Char × List Char)}

theorem splitOn_joined (hpiece : ∀ c ∈ piece, separates c = false)
    (hseparators : ∀ group ∈ groups, separates group.1 = true)
    (hgroups : ∀ group ∈ groups, ∀ c ∈ group.2, separates c = false) :
    splitOn separates (joined piece groups) = piece :: groups.map Prod.snd := by
  induction groups generalizing piece with
  | nil => simpa [joined] using splitOn_eq_singleton hpiece
  | cons group groups ih =>
      rw [List.forall_mem_cons] at hseparators hgroups
      rw [joined_cons, splitOn_append hseparators.1, splitOn_eq_singleton hpiece,
        ih hgroups.1 hseparators.2 hgroups.2]
      rfl

theorem exists_joined (separates : Char → Bool) (s : List Char) :
    ∃ piece groups, s = joined piece groups ∧
      splitOn separates s = piece :: groups.map Prod.snd ∧
        ∀ group ∈ groups, separates group.1 = true := by
  induction s with
  | nil => exact ⟨[], [], rfl, rfl, by simp⟩
  | cons c s ih =>
      obtain ⟨piece, groups, hs, hsplit, hseparators⟩ := ih
      by_cases hc : separates c = true
      · refine ⟨[], (c, piece) :: groups, ?_, ?_, List.forall_mem_cons.mpr ⟨hc, hseparators⟩⟩
        · rw [joined_cons, ← hs]
          rfl
        · rw [splitOn, if_pos hc, hsplit]
          rfl
      · refine ⟨c :: piece, groups, ?_, ?_, hseparators⟩
        · rw [hs]
          rfl
        · rw [splitOn, if_neg hc, hsplit]

theorem trimStart_eq_nil_iff {s : List Char} : trimStart s = [] ↔ ∀ c ∈ s, isBlank c = true :=
  List.dropWhile_eq_nil_iff

theorem trimEnd_eq_nil_iff {s : List Char} : trimEnd s = [] ↔ ∀ c ∈ s, isBlank c = true :=
  List.rdropWhile_eq_nil_iff

theorem trim_eq_empty_iff {s : String} : trim s = "" ↔ ∀ c ∈ s.toList, isBlank c = true := by
  have hagain : trimStart (trimStart s.toList) = trimStart s.toList :=
    List.dropWhile_idempotent isBlank s.toList
  rw [trim, String.ofList_eq_empty_iff, trimEnd_eq_nil_iff, ← trimStart_eq_nil_iff, hagain,
    trimStart_eq_nil_iff]

end Text

theorem isLetter_iff {c : Char} :
    isLetter c = true ↔ (97 ≤ c.toNat ∧ c.toNat ≤ 122) ∨ (65 ≤ c.toNat ∧ c.toNat ≤ 90) := by
  simp only [isLetter, Bool.or_eq_true, Bool.and_eq_true, decide_eq_true_eq, Char.le_def,
    UInt32.le_iff_toNat_le]
  rfl

theorem utf8Size_of_isLetter {c : Char} (hc : isLetter c = true) : c.utf8Size = 1 := by
  have hcode := isLetter_iff.mp hc
  exact Text.utf8Size_eq_one (by omega)

theorem isBlank_eq_false_of_isLetter {c : Char} (hc : isLetter c = true) : isBlank c = false := by
  have hcode := isLetter_iff.mp hc
  exact Text.isBlank_eq_false (by omega)

namespace Settings

/-- A part of a tag, whose length and characters are limited. -/
structure IsPart (least most : Nat) (p : Char → Bool) (s : List Char) : Prop where
  least_le : least ≤ s.length
  le_most : s.length ≤ most
  all : ∀ c ∈ s, p c = true

/-- A locale tag, cut into its language and its subtags, with the separator before each of these. -/
structure SpellsTag (language : List Char) (subtags : List (Char × List Char)) (s : String) :
    Prop where
  isLanguage : IsPart 2 3 isLetter language
  separators : ∀ subtag ∈ subtags, subtag.1 = '-' ∨ subtag.1 = '_'
  isSubtag : ∀ subtag ∈ subtags, IsPart 2 8 (fun c => isLetter c || isDigit c) subtag.2
  text : s.toList = Text.joined language subtags

variable {language : List Char} {subtags : List (Char × List Char)} {tag : String}

theorem isTagPart_iff {least most : Nat} {p : Char → Bool} {s : List Char}
    (hp : ∀ c, p c = true → c.utf8Size = 1) :
    isTagPart least most p s = true ↔ IsPart least most p s := by
  have hlength : (∀ c ∈ s, p c = true) → Text.byteLength s = s.length :=
    fun hs => Text.byteLength_eq_length fun c hc => hp c (hs c hc)
  simp only [isTagPart, Bool.and_eq_true, decide_eq_true_eq, List.all_eq_true]
  constructor
  · rintro ⟨⟨hleast, hmost⟩, hs⟩
    rw [hlength hs] at hleast hmost
    exact ⟨hleast, hmost, hs⟩
  · rintro ⟨hleast, hmost, hs⟩
    rw [hlength hs]
    exact ⟨⟨hleast, hmost⟩, hs⟩

theorem utf8Size_of_isLetter_or_isDigit {c : Char} (hc : (isLetter c || isDigit c) = true) :
    c.utf8Size = 1 := by
  rcases Bool.or_eq_true_iff.mp hc with hletter | hdigit
  · exact utf8Size_of_isLetter hletter
  · exact Text.utf8Size_of_isDigit hdigit

theorem isTagSeparator_iff {c : Char} : isTagSeparator c = true ↔ c = '-' ∨ c = '_' := by
  simp [isTagSeparator]

theorem isTagSeparator_eq_false {c : Char} (hc : (isLetter c || isDigit c) = true) :
    isTagSeparator c = false := by
  rw [← Bool.not_eq_true, isTagSeparator_iff]
  rintro (rfl | rfl) <;> exact absurd hc (by decide)

theorem SpellsTag.splitOn_eq (h : SpellsTag language subtags tag) :
    Text.splitOn isTagSeparator tag.toList = language :: subtags.map Prod.snd := by
  rw [h.text]
  refine Text.splitOn_joined ?_ ?_ ?_
  · intro c hc
    exact isTagSeparator_eq_false (by rw [h.isLanguage.all c hc, Bool.true_or])
  · intro subtag hsubtag
    exact isTagSeparator_iff.mpr (h.separators subtag hsubtag)
  · intro subtag hsubtag c hc
    exact isTagSeparator_eq_false ((h.isSubtag subtag hsubtag).all c hc)

theorem isLocaleTag_iff_of_splitOn
    (hsplit : Text.splitOn isTagSeparator tag.toList = language :: subtags.map Prod.snd) :
    isLocaleTag tag = true ↔ IsPart 2 3 isLetter language ∧
      ∀ subtag ∈ subtags, IsPart 2 8 (fun c => isLetter c || isDigit c) subtag.2 := by
  have hletters : ∀ c, isLetter c = true → c.utf8Size = 1 := fun c => utf8Size_of_isLetter
  have hwords : ∀ c, (isLetter c || isDigit c) = true → c.utf8Size = 1 :=
    fun c => utf8Size_of_isLetter_or_isDigit
  unfold isLocaleTag
  rw [hsplit]
  simp only [Bool.and_eq_true, isTagPart_iff hletters, List.all_map, List.all_eq_true,
    Function.comp_apply, isTagPart_iff hwords]

theorem isLocaleTag_iff :
    isLocaleTag tag = true ↔ ∃ language subtags, SpellsTag language subtags tag := by
  constructor
  · intro htag
    obtain ⟨language, subtags, htext, hsplit, hseparators⟩ :=
      Text.exists_joined isTagSeparator tag.toList
    obtain ⟨hlanguage, hsubtags⟩ := (isLocaleTag_iff_of_splitOn hsplit).mp htag
    refine ⟨language, subtags, hlanguage, fun subtag hmem => ?_, hsubtags, htext⟩
    exact isTagSeparator_iff.mp (hseparators subtag hmem)
  · rintro ⟨language, subtags, h⟩
    exact (isLocaleTag_iff_of_splitOn h.splitOn_eq).mpr ⟨h.isLanguage, h.isSubtag⟩

theorem SpellsTag.exists_letter (h : SpellsTag language subtags tag) :
    ∃ c ∈ tag.toList, isLetter c = true := by
  have hlength := h.isLanguage.least_le
  obtain ⟨c, hc⟩ := List.exists_mem_of_length_pos (by omega : 0 < language.length)
  refine ⟨c, ?_, h.isLanguage.all c hc⟩
  rw [h.text]
  exact List.mem_append_left _ hc

theorem SpellsTag.trim_ne_empty (h : SpellsTag language subtags tag) : Text.trim tag ≠ "" := by
  rw [Ne, Text.trim_eq_empty_iff]
  intro hblank
  obtain ⟨c, hc, hletter⟩ := h.exists_letter
  have hnot := isBlank_eq_false_of_isLetter hletter
  rw [hblank c hc] at hnot
  cases hnot

variable {s : Settings}

theorem validate_of_blank (hblank : Text.trim s.locale = "") :
    s.validate = .error ⟨"locale", .empty⟩ := by
  rw [validate, checkNotEmpty, if_pos hblank]
  rfl

theorem validate_of_not_blank (hblank : Text.trim s.locale ≠ "") :
    s.validate = checkLocaleTag "locale" s.locale := by
  rw [validate, checkNotEmpty, if_neg hblank]
  rfl

theorem SpellsTag.validate_eq (h : SpellsTag language subtags s.locale) : s.validate = .ok () := by
  rw [validate_of_not_blank h.trim_ne_empty, checkLocaleTag,
    if_pos (isLocaleTag_iff.mpr ⟨language, subtags, h⟩)]

theorem validate_of_no_tag (hblank : Text.trim s.locale ≠ "")
    (htag : ¬∃ language subtags, SpellsTag language subtags s.locale) :
    s.validate = .error ⟨"locale", .notALocaleTag s.locale⟩ := by
  rw [validate_of_not_blank hblank, checkLocaleTag, if_neg fun h => htag (isLocaleTag_iff.mp h)]

theorem validate_eq_ok_iff :
    s.validate = .ok () ↔ ∃ language subtags, SpellsTag language subtags s.locale := by
  constructor
  · intro hvalid
    by_contra htag
    by_cases hblank : Text.trim s.locale = ""
    · rw [validate_of_blank hblank] at hvalid
      cases hvalid
    · rw [validate_of_no_tag hblank htag] at hvalid
      cases hvalid
  · rintro ⟨language, subtags, h⟩
    exact h.validate_eq

theorem validate_error_cases {e : Invalid} (he : s.validate = .error e) :
    ((∀ c ∈ s.locale.toList, isBlank c = true) ∧ e = ⟨"locale", .empty⟩) ∨
      (¬∀ c ∈ s.locale.toList, isBlank c = true) ∧ e = ⟨"locale", .notALocaleTag s.locale⟩ := by
  rw [← Text.trim_eq_empty_iff]
  by_cases hblank : Text.trim s.locale = ""
  · rw [validate_of_blank hblank] at he
    exact .inl ⟨hblank, (Except.error.inj he).symm⟩
  · have htag : ¬∃ language subtags, SpellsTag language subtags s.locale := by
      rw [← validate_eq_ok_iff, he]
      exact fun h => by cases h
    rw [validate_of_no_tag hblank htag] at he
    exact .inr ⟨hblank, (Except.error.inj he).symm⟩

theorem reason_notALocaleTag_ne (tag : String) :
    (Defect.notALocaleTag tag).reason ≠ Defect.empty.reason := by
  unfold Defect.reason
  intro h
  have hhead := congrArg (fun s => s.toList.head?) h
  simp at hhead

/-- Settings are valid exactly if their locale is two or three letters, and any number of times a
hyphen or a low line with two to eight letters or digits behind it. A locale of blank space only is
refused as empty, and no other is; any other that is refused is named as not a locale tag. -/
theorem validate_accepts_locale_tags (s : Settings) :
    (s.validate = .ok () ↔ ∃ language subtags, SpellsTag language subtags s.locale) ∧
      ∀ e, s.validate = .error e →
        e.key = "locale" ∧
        (e.defect.reason = "cannot be empty" ↔ ∀ c ∈ s.locale.toList, isBlank c = true) ∧
        ((¬∀ c ∈ s.locale.toList, isBlank c = true) →
          e.defect.reason = "`" ++ s.locale ++ "` is not a locale tag") := by
  refine ⟨validate_eq_ok_iff, ?_⟩
  intro e he
  rcases validate_error_cases he with ⟨hblank, rfl⟩ | ⟨hblank, rfl⟩
  · exact ⟨rfl, ⟨fun _ => hblank, fun _ => rfl⟩, fun hnot => absurd hblank hnot⟩
  · have hreason := reason_notALocaleTag_ne s.locale
    exact ⟨rfl, ⟨fun hempty => absurd hempty hreason, fun h => absurd h hblank⟩, fun _ => rfl⟩

theorem validate_refuses_trailing_separator :
    (⟨"zh_Hans-", .lenient, .range⟩ : Settings).validate =
        .error ⟨"locale", .notALocaleTag "zh_Hans-"⟩ ∧
      (¬∃ language subtags, SpellsTag language subtags "zh_Hans-") ∧
        (Defect.notALocaleTag "zh_Hans-").reason = "`zh_Hans-` is not a locale tag" := by
  obtain ⟨hok, herror⟩ := validate_accepts_locale_tags ⟨"zh_Hans-", .lenient, .range⟩
  have hrefused : (⟨"zh_Hans-", .lenient, .range⟩ : Settings).validate =
      .error ⟨"locale", .notALocaleTag "zh_Hans-"⟩ := by
    decide
  obtain ⟨-, -, hreason⟩ := herror _ hrefused
  have hblank : ¬∀ c ∈ "zh_Hans-".toList, isBlank c = true := by
    intro hblank
    exact absurd (hblank 'z' (by decide)) (by decide)
  refine ⟨hrefused, fun htag => ?_, hreason hblank⟩
  rw [hok.mpr htag] at hrefused
  cases hrefused

end Settings

end FormCheck
