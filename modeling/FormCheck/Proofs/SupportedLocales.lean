import FormCheck.Profile
import FormCheck.Proofs.LocaleTags
import FormCheck.Proofs.SmallLetters

/-!
The locales of settings that messages are written in. A locale is looked for with small letters of
every script, and settings are tested sign by sign. Together they let through the spellings of the
known tags in ASCII letters of either case, with a hyphen or a low line before each subtag, and no
others. A tag of the right form that is not known is refused as it was given.
-/

namespace FormCheck

open Text (isBlank isDigit)

/-- A sign of a tag in the spelling that counts: a small letter, and a hyphen for a low line. -/
def tagSign (c : Char) : Char :=
  if c = '_' then '-' else c.toLower

theorem tagSign_of_ge {c : Char} (hc : 128 ≤ c.toNat) : tagSign c = c := by
  have hne : c ≠ '_' := by
    rintro rfl
    exact absurd hc (by decide)
  rw [tagSign, if_neg hne, Text.toLower_of_ge hc]

theorem toLower_hyphened (c : Char) : (if c = '_' then '-' else c).toLower = tagSign c := by
  rw [tagSign]
  split <;> rfl

/-- What the test of a tag looks at in a sign, and finds in its other spellings as well. -/
structure SameClass (c d : Char) : Prop where
  isLetter : isLetter c = isLetter d
  isDigit : isDigit c = isDigit d
  isTagSeparator : Settings.isTagSeparator c = Settings.isTagSeparator d
  utf8Size : c.utf8Size = d.utf8Size

theorem sameClass_iff {c d : Char} : SameClass c d ↔ isLetter c = isLetter d ∧
    isDigit c = isDigit d ∧ Settings.isTagSeparator c = Settings.isTagSeparator d ∧
      c.utf8Size = d.utf8Size :=
  ⟨fun h => ⟨h.isLetter, h.isDigit, h.isTagSeparator, h.utf8Size⟩,
    fun ⟨hletter, hdigit, hseparator, hsize⟩ => ⟨hletter, hdigit, hseparator, hsize⟩⟩

instance {c d : Char} : Decidable (SameClass c d) :=
  decidable_of_iff _ sameClass_iff.symm

theorem sameClass_tagSign (c : Char) : SameClass (tagSign c) c := by
  by_cases hc : c.toNat < 128
  · have htable : ∀ n < 128, SameClass (tagSign (Char.ofNat n)) (Char.ofNat n) := by
      decide +kernel
    have hcode := htable c.toNat hc
    rwa [Char.ofNat_toNat] at hcode
  · rw [tagSign_of_ge (by omega)]
    exact ⟨rfl, rfl, rfl, rfl⟩

namespace Text

theorem splitOn_map {separates : Char → Bool} {f : Char → Char}
    (hf : ∀ c, separates (f c) = separates c) (s : List Char) :
    splitOn separates (s.map f) = (splitOn separates s).map (List.map f) := by
  induction s with
  | nil => rfl
  | cons c s ih =>
      rw [List.map_cons, splitOn, splitOn, hf, ih]
      cases h : splitOn separates s with
      | nil => exact absurd h (splitOn_ne_nil separates s)
      | cons piece pieces => split <;> rfl

theorem byteLength_map {f : Char → Char} (hf : ∀ c, (f c).utf8Size = c.utf8Size)
    (s : List Char) : byteLength (s.map f) = byteLength s := by
  induction s with
  | nil => rfl
  | cons c s ih => rw [List.map_cons, byteLength_cons, byteLength_cons, hf, ih]

theorem trim_eq_self {s : String} (hs : ∀ c ∈ s.toList, isBlank c = false) : trim s = s := by
  have hstart : trimStart s.toList = s.toList := by
    refine List.dropWhile_eq_self_iff.mpr fun hpos => ?_
    simp [hs _ (List.getElem_mem hpos)]
  have hend : trimEnd s.toList = s.toList := by
    refine List.rdropWhile_eq_self_iff.mpr fun hne => ?_
    simp [hs _ (List.getLast_mem hne)]
  rw [trim, hstart, hend, String.ofList_toList]

end Text

namespace Settings

variable {language : List Char} {subtags : List (Char × List Char)} {tag : String}

theorem isTagPart_map_tagSign {least most : Nat} {p : Char → Bool}
    (hp : ∀ c, p (tagSign c) = p c) (s : List Char) :
    isTagPart least most p (s.map tagSign) = isTagPart least most p s := by
  have hbytes := Text.byteLength_map (fun c => (sameClass_tagSign c).utf8Size) s
  rw [isTagPart, isTagPart, hbytes, List.all_map]
  simp only [Function.comp_def, hp]

theorem isLocaleTag_of_spelling {word : String} (h : tag.toList.map tagSign = word.toList) :
    isLocaleTag tag = isLocaleTag word := by
  have hseparators : ∀ c, isTagSeparator (tagSign c) = isTagSeparator c :=
    fun c => (sameClass_tagSign c).isTagSeparator
  have hletters : ∀ c, isLetter (tagSign c) = isLetter c :=
    fun c => (sameClass_tagSign c).isLetter
  have hwords : ∀ c, (isLetter (tagSign c) || isDigit (tagSign c)) = (isLetter c || isDigit c) := by
    intro c
    rw [hletters, (sameClass_tagSign c).isDigit]
  rw [isLocaleTag, isLocaleTag, ← h, Text.splitOn_map hseparators]
  cases Text.splitOn isTagSeparator tag.toList with
  | nil => rfl
  | cons language subtags =>
      simp only [List.map_cons, List.all_map, Function.comp_def, isTagPart_map_tagSign hletters,
        isTagPart_map_tagSign (p := fun c => isLetter c || isDigit c) hwords]

theorem SpellsTag.isBlank_eq_false (h : SpellsTag language subtags tag) :
    ∀ c ∈ tag.toList, isBlank c = false := by
  have hword : ∀ c, (isLetter c || isDigit c) = true → isBlank c = false := by
    intro c hc
    rcases Bool.or_eq_true_iff.mp hc with hletter | hdigit
    · exact isBlank_eq_false_of_isLetter hletter
    · have hcode := Text.isDigit_iff.mp hdigit
      exact Text.isBlank_eq_false (by omega)
  intro c hc
  rw [h.text, Text.joined, List.mem_append, List.mem_flatten] at hc
  rcases hc with hc | ⟨group, hgroup, hc⟩
  · exact isBlank_eq_false_of_isLetter (h.isLanguage.all c hc)
  · obtain ⟨subtag, hsubtag, rfl⟩ := List.mem_map.mp hgroup
    rcases List.mem_cons.mp hc with rfl | hc
    · rcases h.separators subtag hsubtag with hsign | hsign <;> rw [hsign] <;> decide
    · exact hword c ((h.isSubtag subtag hsubtag).all c hc)

end Settings

namespace Locale

/-- The tags that a locale is known by, in small letters and with hyphens. -/
def knownTags : Locale → List String
  | .zhCN => ["zh", "zh-cn", "zh-hans", "zh-hans-cn"]
  | .enUS => ["en", "en-us"]

/-- A text that is a tag of the locale up to the case of ASCII letters, and with a low line for any
of the hyphens. -/
def IsSpelledBy (locale : Locale) (s : String) : Prop :=
  ∃ tag ∈ locale.knownTags, s.toList.map tagSign = tag.toList

instance (locale : Locale) : DecidablePred locale.IsSpelledBy := fun _ =>
  inferInstanceAs (Decidable (∃ tag ∈ _, _))

variable {locale : Locale} {s tag : String}

theorem isPlain_knownTags (htag : tag ∈ locale.knownTags) : ∀ c ∈ tag.toList, Text.IsPlain c := by
  have htable : ∀ tag ∈ locale.knownTags, ∀ c ∈ tag.toList, Text.IsPlain c := by
    cases locale <;> simp [knownTags, Text.IsPlain]
  exact htable tag htag

theorem isLocaleTag_knownTags (htag : tag ∈ locale.knownTags) :
    Settings.isLocaleTag tag = true := by
  have htable : ∀ tag ∈ locale.knownTags, Settings.isLocaleTag tag = true := by
    cases locale <;> decide
  exact htable tag htag

theorem normalTag_eq_iff (htag : tag ∈ locale.knownTags) :
    normalTag s = tag ↔ (Text.trim s).toList.map tagSign = tag.toList := by
  rw [normalTag, Text.lowercase_eq_iff (isPlain_knownTags htag), String.toList_map, List.map_map]
  simp only [Function.comp_def, toLower_hyphened]

theorem ofTag?_eq_some_iff_mem : ofTag? s = some locale ↔ normalTag s ∈ locale.knownTags := by
  have hapart : ∀ tag ∈ enUS.knownTags, tag ∉ zhCN.knownTags := by decide
  have htag : ofTag? s = if normalTag s ∈ zhCN.knownTags then some zhCN
      else if normalTag s ∈ enUS.knownTags then some enUS else none := rfl
  rw [htag]
  by_cases hzh : normalTag s ∈ zhCN.knownTags
  · have hen : normalTag s ∉ enUS.knownTags := fun hen => hapart _ hen hzh
    rw [if_pos hzh]
    cases locale <;> simp [hzh, hen]
  · rw [if_neg hzh]
    by_cases hen : normalTag s ∈ enUS.knownTags
    · rw [if_pos hen]
      cases locale <;> simp [hzh, hen]
    · rw [if_neg hen]
      cases locale <;> simp [hzh, hen]

/-- A text is taken for a locale if it spells one of its tags once the blanks at its ends are gone.
-/
theorem tagged_eq_ok_iff : tagged s = .ok locale ↔ locale.IsSpelledBy (Text.trim s) := by
  have hok : tagged s = .ok locale ↔ ofTag? s = some locale := by
    rw [tagged]
    cases ofTag? s <;> simp
  rw [hok, ofTag?_eq_some_iff_mem]
  constructor
  · intro hmem
    exact ⟨_, hmem, (normalTag_eq_iff hmem).mp rfl⟩
  · rintro ⟨tag, htag, hspelled⟩
    rwa [(normalTag_eq_iff htag).mpr hspelled]

theorem tagged_cases (s : String) : (∃ locale, tagged s = .ok locale) ∨ tagged s = .error ⟨s⟩ := by
  rw [tagged]
  split
  · exact .inl ⟨_, rfl⟩
  · exact .inr rfl

theorem IsSpelledBy.isLocaleTag (h : locale.IsSpelledBy s) : Settings.isLocaleTag s = true := by
  obtain ⟨tag, htag, hspelled⟩ := h
  rw [Settings.isLocaleTag_of_spelling hspelled, isLocaleTag_knownTags htag]

theorem IsSpelledBy.toNat_lt (h : locale.IsSpelledBy s) : ∀ c ∈ s.toList, c.toNat < 128 := by
  obtain ⟨tag, htag, hspelled⟩ := h
  intro c hc
  by_contra hge
  have hmem : tagSign c ∈ tag.toList := by
    rw [← hspelled]
    exact List.mem_map_of_mem hc
  rw [tagSign_of_ge (by omega)] at hmem
  exact hge (isPlain_knownTags htag c hmem).2.1

end Locale

namespace Profile

variable {s : Settings} {locale : Locale}

theorem ofSettings_eq_map (s : Settings) :
    ofSettings s = (Locale.tagged s.locale).map (⟨·, s.malformedRules, s.dateCheck⟩) := by
  rw [ofSettings]
  cases Locale.tagged s.locale <;> rfl

theorem ofSettings_eq_ok_iff {profile : Profile} :
    ofSettings s = .ok profile ↔ ∃ locale, Locale.tagged s.locale = .ok locale ∧
      profile = ⟨locale, s.malformedRules, s.dateCheck⟩ := by
  rw [ofSettings_eq_map]
  cases Locale.tagged s.locale <;> simp [Except.map, eq_comm]

theorem validate_of_isSpelledBy (h : locale.IsSpelledBy s.locale) : s.validate = .ok () :=
  Settings.validate_eq_ok_iff.mpr (Settings.isLocaleTag_iff.mp h.isLocaleTag)

theorem trim_of_validate (h : s.validate = .ok ()) : Text.trim s.locale = s.locale := by
  obtain ⟨language, subtags, hspells⟩ := Settings.validate_eq_ok_iff.mp h
  exact Text.trim_eq_self hspells.isBlank_eq_false

theorem tagged_of_validate (h : s.validate = .ok ()) :
    Locale.tagged s.locale = .ok locale ↔ locale.IsSpelledBy s.locale := by
  rw [Locale.tagged_eq_ok_iff, trim_of_validate h]

/-- Whatever text a locale is found for passes the test of tags once the blanks at its ends are
gone. Settings pass their own test and make a profile of a locale exactly if their locale is a
spelling of one of its known tags, and so neither blanks at the ends nor letters of other scripts
are ever taken for one. Settings with any other tag of the right form are refused by that tag as it
is. -/
theorem locale_of_valid_settings_iff (s : Settings) :
    (∀ locale, Locale.tagged s.locale = .ok locale → ∀ key,
      Settings.checkLocaleTag key (Text.trim s.locale) = .ok ()) ∧
    (∀ locale, (s.validate = .ok () ∧
        ofSettings s = .ok ⟨locale, s.malformedRules, s.dateCheck⟩) ↔
      locale.IsSpelledBy s.locale) ∧
    (∀ profile, s.validate = .ok () → ofSettings s = .ok profile →
      Text.trim s.locale = s.locale ∧ ∀ c ∈ s.locale.toList, c.toNat < 128) ∧
    (s.validate = .ok () → (∀ locale : Locale, ¬locale.IsSpelledBy s.locale) →
      ofSettings s = .error ⟨s.locale⟩) := by
  refine ⟨?_, fun locale => ⟨?_, ?_⟩, ?_, ?_⟩
  · intro locale hlocale key
    have hspelled := Locale.tagged_eq_ok_iff.mp hlocale
    rw [Settings.checkLocaleTag, if_pos hspelled.isLocaleTag]
  · rintro ⟨hvalid, hprofile⟩
    obtain ⟨found, hfound, hsame⟩ := ofSettings_eq_ok_iff.mp hprofile
    obtain rfl : locale = found := congrArg Profile.locale hsame
    exact (tagged_of_validate hvalid).mp hfound
  · intro hspelled
    have hvalid := validate_of_isSpelledBy hspelled
    exact ⟨hvalid, ofSettings_eq_ok_iff.mpr ⟨locale, (tagged_of_validate hvalid).mpr hspelled, rfl⟩⟩
  · intro profile hvalid hprofile
    obtain ⟨locale, hlocale, -⟩ := ofSettings_eq_ok_iff.mp hprofile
    exact ⟨trim_of_validate hvalid, ((tagged_of_validate hvalid).mp hlocale).toNat_lt⟩
  · intro hvalid hnone
    rcases Locale.tagged_cases s.locale with ⟨locale, hlocale⟩ | hrefused
    · exact absurd ((tagged_of_validate hvalid).mp hlocale) (hnone locale)
    · rw [ofSettings_eq_map, hrefused]
      rfl

theorem locale_of_valid_settings_of_padding :
    let known : Settings := ⟨"zH_hANS-Cn", .strict, .calendar⟩
    let padded : Settings := ⟨"\u3000zH_hANS-Cn ", .strict, .calendar⟩
    let unknown : Settings := ⟨"zh_TW", .strict, .calendar⟩
    ofSettings known = .ok ⟨.zhCN, .strict, .calendar⟩ ∧
      Locale.tagged padded.locale = .ok .zhCN ∧
      Settings.checkLocaleTag "locale" (Text.trim padded.locale) = .ok () ∧
      (¬padded.validate = .ok ()) ∧
      unknown.validate = .ok () ∧ ofSettings unknown = .error ⟨"zh_TW"⟩ := by
  intro known padded unknown
  obtain ⟨-, haccepts, -⟩ := locale_of_valid_settings_iff known
  obtain ⟨hpasses, -⟩ := locale_of_valid_settings_iff padded
  obtain ⟨-, -, -, hrefuses⟩ := locale_of_valid_settings_iff unknown
  have hknown : Locale.zhCN.IsSpelledBy known.locale := by decide
  have hfound : Locale.tagged padded.locale = .ok .zhCN := by decide +kernel
  have hvalid : unknown.validate = .ok () := by decide
  have hunknown : ∀ locale : Locale, ¬locale.IsSpelledBy unknown.locale := by
    intro locale
    cases locale <;> decide
  exact ⟨((haccepts .zhCN).mpr hknown).2, hfound, hpasses .zhCN hfound "locale", by decide, hvalid,
    hrefuses hvalid hunknown⟩

end Profile

end FormCheck
