import FormCheck.Message
import FormCheck.Proofs.CheckCharacter
import FormCheck.Proofs.DateParts

namespace FormCheck.IdentityNumber

open Text (isDigit digitValue)

variable {s : List Char}

theorem exists_drop_eq_singleton (h : s.length = 18) : ∃ c, s.drop 17 = [c] :=
  List.length_eq_one_iff.mp (by rw [List.length_drop, h])

theorem getD_of_drop_eq_singleton {c : Char} (h : s.drop 17 = [c]) : s.getD 17 '0' = c := by
  have hget := congrArg (fun t : List Char => t[0]?) h
  simp only [List.getElem?_drop] at hget
  simp [List.getD_eq_getElem?_getD, hget]

theorem powerSum_take (s : List Char) : powerSum (s.take 17) = powerSum s := by
  refine Finset.sum_congr rfl fun i hi => ?_
  have hlt := Finset.mem_range.mp hi
  rw [List.getD_eq_getElem?_getD, List.getD_eq_getElem?_getD, List.getElem?_take_of_lt hlt]

theorem checkCharacter?_take_eq_iff (h : WellFormed s) {c : Char} (hlast : s.drop 17 = [c]) :
    checkCharacter? (s.take 17) = some c ↔ Balanced s := by
  have hlength : (s.take 17).length = 17 := by
    rw [List.length_take, h.length_eq]
    rfl
  have hcode : IsCode c := h.check c (by simp [hlast])
  rw [checkCharacter?_eq_some_iff, powerSum_take, Balanced, getD_of_drop_eq_singleton hlast]
  exact ⟨fun hc => hc.2.2.2, fun hsum => ⟨hlength, h.body, hcode, hsum⟩⟩

instance : DecidablePred WellFormed := fun _ => decidable_of_iff _ hasShape_iff

theorem failure?_eq (s : List Char) :
    failure? s = if WellFormed s then if Balanced s then none else some .checksum
      else some .format := by
  unfold failure?
  by_cases h : WellFormed s
  · obtain ⟨c, hlast⟩ := exists_drop_eq_singleton h.length_eq
    have hbalanced := checkCharacter?_take_eq_iff h hlast
    rw [if_pos (hasShape_iff.mpr h), if_pos h, hlast]
    cases hcheck : checkCharacter? (s.take 17) with
    | none =>
        rw [hcheck] at hbalanced
        rw [if_neg fun hb => by cases hbalanced.mpr hb]
    | some expected =>
        rw [hcheck, Option.some.injEq] at hbalanced
        simp only [List.head?_cons, Option.some.injEq, eq_comm (a := c), hbalanced]
  · rw [if_neg fun hshape => h (hasShape_iff.mp hshape), if_neg h]

theorem failure?_eq_none_iff : failure? s = none ↔ WellFormed s ∧ Balanced s := by
  rw [failure?_eq]
  split_ifs <;> simp_all

theorem failure?_eq_format_iff : failure? s = some .format ↔ ¬WellFormed s := by
  rw [failure?_eq]
  split_ifs <;> simp_all

theorem failure?_eq_checksum_iff : failure? s = some .checksum ↔ WellFormed s ∧ ¬Balanced s := by
  rw [failure?_eq]
  split_ifs <;> simp_all

theorem failure_identityVerdict (locale : Locale) (failure : Option Failure) :
    (locale.identityVerdict failure).failure = failure := by
  cases failure <;> rfl

theorem code_identityVerdict (locale : Locale) (failure : Option Failure) :
    (locale.identityVerdict failure).code = if failure = none then .valid else .invalid := by
  cases failure <;> rfl

theorem message_identityVerdict_eq_empty_iff (locale : Locale) (failure : Option Failure) :
    (locale.identityVerdict failure).message = "" ↔ failure = none := by
  cases failure with
  | none => simp [Locale.identityVerdict]
  | some failure => cases locale <;> cases failure <;> decide

theorem code_verify_eq_valid_iff {locale : Locale} {s : String} :
    (verify locale s).code = .valid ↔ WellFormed s.toList ∧ Balanced s.toList := by
  rw [verify, code_identityVerdict, ← failure?_eq_none_iff]
  split_ifs <;> simp_all

theorem isValid_iff {s : String} :
    isValid s = true ↔ WellFormed s.toList ∧ Balanced s.toList := by
  have hcode : isValid s = true ↔ (verify default s).code = .valid := beq_iff_eq
  rw [hcode, code_verify_eq_valid_iff]

theorem WellFormed.utf8ByteSize_take (h : WellFormed s) :
    (String.ofList (s.take 17)).utf8ByteSize = 17 := by
  rw [Text.utf8ByteSize_ofList,
    Text.byteLength_eq_length fun c hc => Text.utf8Size_of_isDigit (h.body c hc),
    List.length_take, h.length_eq]
  rfl

theorem WellFormed.isValid_pos {s : String} (h : WellFormed s.toList) :
    (⟨17⟩ : String.Pos.Raw).IsValid s := by
  refine String.Pos.Raw.isValid_iff_exists_append.mpr
    ⟨String.ofList (s.toList.take 17), String.ofList (s.toList.drop 17), ?_, ?_⟩
  · rw [← String.ofList_append, List.take_append_drop, String.ofList_toList]
  · apply String.Pos.Raw.ext
    rw [String.byteIdx_rawEndPos, h.utf8ByteSize_take]

/-- A text is valid exactly when it is well formed and balanced, and otherwise the failure tells
which of the two it is not. The three parts of the verdict agree, and the locale only chooses the
words. Of the JSON values only strings are read. -/
theorem verify_classifies (locale : Locale) (s : String) :
    ((verify locale s).code = .valid ↔ WellFormed s.toList ∧ Balanced s.toList) ∧
    ((verify locale s).failure = some .format ↔ ¬WellFormed s.toList) ∧
    ((verify locale s).failure = some .checksum ↔ WellFormed s.toList ∧ ¬Balanced s.toList) ∧
    ((verify locale s).code = .valid ↔ (verify locale s).failure = none) ∧
    ((verify locale s).failure = none ↔ (verify locale s).message = "") ∧
    (hasShape s.toList = true → (⟨17⟩ : String.Pos.Raw).IsValid s ∧
      (String.ofList (s.toList.take 17)).utf8ByteSize = 17) ∧
    (∀ other, (verify other s).code = (verify locale s).code ∧
      (verify other s).failure = (verify locale s).failure) ∧
    verifyJson locale (.str s) = verify locale s ∧
    ∀ v : Json, (∀ t, v ≠ .str t) →
      (verifyJson locale v).code = .invalid ∧ (verifyJson locale v).failure = some .notAString := by
  refine ⟨code_verify_eq_valid_iff, ?_, ?_, ?_, ?_, ?_, ?_, rfl, ?_⟩
  · rw [verify, failure_identityVerdict, failure?_eq_format_iff]
  · rw [verify, failure_identityVerdict, failure?_eq_checksum_iff]
  · rw [code_verify_eq_valid_iff, verify, failure_identityVerdict, failure?_eq_none_iff]
  · rw [verify, failure_identityVerdict, message_identityVerdict_eq_empty_iff]
  · intro hshape
    have hform := hasShape_iff.mp hshape
    exact ⟨hform.isValid_pos, hform.utf8ByteSize_take⟩
  · intro other
    simp only [verify, code_identityVerdict, failure_identityVerdict, and_self]
  · intro v hv
    cases v with
    | str t => exact absurd rfl (hv t)
    | _ => exact ⟨rfl, rfl⟩

/-- The date of birth in seventeen digits, with its parts as a date in a field has them. -/
def birthParts (body : List Char) : Date.Parts :=
  ⟨String.ofList (slice body 6 4), String.ofList (slice body 10 2),
    String.ofList (slice body 12 2)⟩

/-- What seventeen digits have to be for a check character to complete them. The month and the day
are judged as in dates that are typed into a field. -/
structure Completable (body : List Char) : Prop where
  region : body.head? ≠ some '0'
  year : 1900 ≤ numberAt body 6 4 ∧ numberAt body 6 4 ≤ 2099
  date : (birthParts body).inRange = true

theorem slice_append {t : List Char} {start count : Nat} (h : start + count ≤ s.length) :
    slice (s ++ t) start count = slice s start count := by
  rw [slice, List.drop_append_of_le_length (by omega),
    List.take_append_of_le_length (by rw [List.length_drop]; omega), slice]

theorem twoDigits_slice (hdigits : ∀ c ∈ s, isDigit c = true) {start : Nat}
    (h : start + 2 ≤ s.length) : Date.TwoDigits (String.ofList (slice s start 2)) := by
  refine ⟨by rw [String.toList_ofList, length_slice h], ?_⟩
  rw [String.toList_ofList]
  exact fun c hc => hdigits c (List.mem_of_mem_drop (List.mem_of_mem_take hc))

theorem wellFormed_append_iff {body : List Char} (hlength : body.length = 17)
    (hdigits : ∀ c ∈ body, isDigit c = true) {c : Char} :
    WellFormed (body ++ [c]) ↔ Completable body ∧ IsCode c := by
  have hdrop : (body ++ [c]).drop 17 = [c] := List.drop_left' hlength
  have htake : (body ++ [c]).take 17 = body := List.take_left' hlength
  have hhead : (body ++ [c]).head? = body.head? := by
    obtain ⟨d, rest, rfl⟩ := List.exists_cons_of_length_eq_add_one hlength
    rfl
  have hslice : ∀ start count, start + count ≤ 17 →
      numberAt (body ++ [c]) start count = numberAt body start count :=
    fun start count h => congrArg Text.decimal (slice_append (by omega))
  have hrange := Date.Parts.inRange_iff (p := birthParts body)
    (twoDigits_slice hdigits (by omega)) (twoDigits_slice hdigits (by omega))
  simp only [birthParts, String.toList_ofList] at hrange
  constructor
  · intro h
    have hyear := h.year
    have hmonth := h.month
    have hday := h.day
    rw [hslice _ _ (by omega)] at hyear hmonth hday
    exact ⟨⟨hhead ▸ h.region, hyear, hrange.mpr ⟨hmonth, hday⟩⟩, h.check c (by simp [hdrop])⟩
  · rintro ⟨⟨hregion, hyear, hdate⟩, hcode⟩
    obtain ⟨hmonth, hday⟩ := hrange.mp hdate
    refine ⟨by simp [hlength], htake.symm ▸ hdigits, hhead.symm ▸ hregion, ?_, ?_, ?_, ?_⟩
    · rwa [hslice _ _ (by omega)]
    · rwa [hslice _ _ (by omega)]
    · rwa [hslice _ _ (by omega)]
    · rw [hdrop]
      intro d hd
      rw [List.mem_singleton.mp hd]
      exact hcode

theorem balanced_append_iff {body : List Char} (hlength : body.length = 17) {c : Char} :
    Balanced (body ++ [c]) ↔ (powerSum body + codeValue c) % 11 = 1 := by
  have hdrop : (body ++ [c]).drop 17 = [c] := List.drop_left' hlength
  have htake : (body ++ [c]).take 17 = body := List.take_left' hlength
  rw [Balanced, getD_of_drop_eq_singleton hdrop, ← powerSum_take, htake]

theorem exists_checkCharacter?_eq_some {body : List Char} (hlength : body.length = 17)
    (hdigits : ∀ c ∈ body, isDigit c = true) : ∃ c, checkCharacter? body = some c := by
  obtain ⟨hcode, hsum⟩ :=
    (checkCodes_get_eq_iff (mod_lt_length_checkCodes (powerSum body))).mp rfl
  rw [Nat.mod_add_mod] at hsum
  exact ⟨_, checkCharacter?_eq_some_iff.mpr ⟨hlength, hdigits, hcode, hsum⟩⟩

/-- One character completes seventeen digits that can be completed, and it is their check
character. No character completes any others. -/
theorem existsUnique_completion {body : String} (hlength : body.toList.length = 17)
    (hdigits : ∀ c ∈ body.toList, isDigit c = true) :
    (Completable body.toList → (∃! c, isValid (body.push c) = true) ∧
      ∃ c, checkCharacter? body.toList = some c ∧ isValid (body.push c) = true) ∧
    (¬Completable body.toList → ∀ c, isValid (body.push c) = false) := by
  -- Both parts come from one equivalence: only the check character depends on `c`.
  have hvalid : ∀ c, isValid (body.push c) = true ↔
      Completable body.toList ∧ checkCharacter? body.toList = some c := by
    intro c
    rw [isValid_iff, String.toList_push, wellFormed_append_iff hlength hdigits,
      balanced_append_iff hlength, checkCharacter?_eq_some_iff]
    exact ⟨fun h => ⟨h.1.1, hlength, hdigits, h.1.2, h.2⟩,
      fun h => ⟨⟨h.1, h.2.2.2.1⟩, h.2.2.2.2⟩⟩
  constructor
  · intro hfits
    obtain ⟨c, hc⟩ := exists_checkCharacter?_eq_some hlength hdigits
    have hcValid := (hvalid c).mpr ⟨hfits, hc⟩
    refine ⟨⟨c, hcValid, fun d hd => ?_⟩, c, hc, hcValid⟩
    have hdCheck := ((hvalid d).mp hd).2
    rw [hc] at hdCheck
    exact (Option.some.inj hdCheck).symm
  · intro hfits c
    exact Bool.eq_false_iff.mpr fun hc => hfits ((hvalid c).mp hc).1

theorem exists_completion_capital_x :
    (∃! c, isValid ("11010519491231002".push c) = true) ∧
      checkCharacter? "11010519491231002".toList = some 'X' ∧
      ∀ c, isValid ("11010519491232002".push c) = false := by
  have hfits : Completable "11010519491231002".toList :=
    ⟨by decide, by decide, by decide⟩
  have hday : ¬Completable "11010519491232002".toList := fun h => absurd h.date (by decide)
  have hdigits : ∀ c ∈ "11010519491231002".toList, isDigit c = true :=
    List.all_eq_true.mp (by decide)
  have hdayDigits : ∀ c ∈ "11010519491232002".toList, isDigit c = true :=
    List.all_eq_true.mp (by decide)
  refine ⟨?_, by decide, ?_⟩
  · exact ((existsUnique_completion (by decide) hdigits).1 hfits).1
  · exact (existsUnique_completion (by decide) hdayDigits).2 hday

end FormCheck.IdentityNumber
