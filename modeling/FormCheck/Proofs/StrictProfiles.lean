import FormCheck.Proofs.BuiltRules

namespace FormCheck.Profile

open Log (Logged)

variable {profile strict lenient : Profile} {kind : Kind} {rules : String}

theorem arguments_of_strict (hprofile : profile.malformedRules = .strict) (kind : Kind)
    (rules : String) :
    profile.arguments kind rules =
      (Arguments.read .refuse kind rules).map fun args => pure (some args) := by
  unfold arguments
  rw [hprofile]
  cases Arguments.read .refuse kind rules <;> rfl

theorem arguments_of_read_refuse (profile : Profile) {args : Arguments}
    (h : Arguments.read .refuse kind rules = .ok args) :
    profile.arguments kind rules = .ok (pure (some args)) := by
  unfold arguments
  rw [h]

theorem exists_numbers_of_lenient (hprofile : profile.malformedRules = .lenient) (kind : Kind)
    (rules : String) : ∃ args, profile.numbers kind rules = .ok args := by
  unfold numbers
  split
  · exact ⟨_, rfl⟩
  · obtain ⟨entries, hentries⟩ := arguments_of_lenient hprofile kind rules
    exact ⟨_, hentries⟩

theorem numbers_eq_error_iff_of_strict (hprofile : profile.malformedRules = .strict)
    {e : ArgumentsError} :
    profile.numbers kind rules = .error e ↔
      kind.arity ≠ 0 ∧ Arguments.read .refuse kind rules = .error e := by
  unfold numbers
  by_cases hkind : kind.arity = 0
  · simp [hkind]
  · rw [if_neg hkind, arguments_of_strict hprofile]
    cases Arguments.read .refuse kind rules <;> simp [hkind, Except.map]

theorem numbers_of_strict (hprofile : strict.malformedRules = .strict) (lenient : Profile)
    {args : Logged (Option Arguments)} (h : strict.numbers kind rules = .ok args) :
    lenient.numbers kind rules = .ok args := by
  unfold numbers at h ⊢
  by_cases hkind : kind.arity = 0
  · rw [if_pos hkind] at h ⊢
    exact h
  · rw [if_neg hkind] at h ⊢
    rw [arguments_of_strict hprofile] at h
    cases hread : Arguments.read .refuse kind rules with
    | error e => simp [hread, Except.map] at h
    | ok numbers =>
        rw [hread] at h
        rw [arguments_of_read_refuse lenient hread]
        exact h

theorem madeFrom_congr (hlocale : strict.locale = lenient.locale)
    (hdates : strict.dateCheck = lenient.dateCheck) (kind : Kind) (required : Bool) :
    strict.madeFrom kind required = lenient.madeFrom kind required := by
  funext args
  unfold madeFrom
  simp only [ruleOf_congr hlocale hdates]

theorem build_congr_rules (profile : Profile) (hkind : kind.arity = 0) (options : RuleOptions)
    (rules : String) : profile.build kind { options with rules } = profile.build kind options := by
  rw [build_eq_map_numbers, build_eq_map_numbers]
  simp only [numbers, if_pos hkind]

/-- A lenient profile builds every kind from every rules text. A strict profile that differs from
it in nothing else fails exactly where a kind takes numbers that cannot be read, with the error of
reading. Otherwise it builds the very same rules, equal in every part down to what a procedure
reports of each value in each context. For a kind without numbers the rules text counts for
nothing. -/
theorem strict_build_refines_lenient (locale : Locale) (dateCheck : DateCheck) (kind : Kind)
    (options : RuleOptions) :
    (∃ built, Profile.build ⟨locale, .lenient, dateCheck⟩ kind options = .ok built) ∧
    (∀ e, Profile.build ⟨locale, .strict, dateCheck⟩ kind options = .error e ↔
      kind.arity ≠ 0 ∧ Arguments.read .refuse kind options.rules = .error e) ∧
    (∀ built, Profile.build ⟨locale, .strict, dateCheck⟩ kind options = .ok built →
      Profile.build ⟨locale, .lenient, dateCheck⟩ kind options = .ok built) ∧
    (kind.arity = 0 → ∀ policy rules,
      Profile.build ⟨locale, policy, dateCheck⟩ kind { options with rules } =
        Profile.build ⟨locale, policy, dateCheck⟩ kind options) := by
  refine ⟨?_, ?_, ?_, ?_⟩
  · have hlenient : malformedRules ⟨locale, .lenient, dateCheck⟩ = .lenient := rfl
    obtain ⟨args, hargs⟩ := exists_numbers_of_lenient hlenient kind options.rules
    exact ⟨_, build_eq_ok_iff.mpr ⟨args, hargs, rfl⟩⟩
  · intro e
    rw [build_eq_error_iff]
    exact numbers_eq_error_iff_of_strict rfl
  · intro built hbuilt
    obtain ⟨args, hargs, hmade⟩ := build_eq_ok_iff.mp hbuilt
    rw [madeFrom_congr rfl rfl kind options.required] at hmade
    exact build_eq_ok_iff.mpr ⟨args, numbers_of_strict rfl _ hargs, hmade⟩
  · intro hkind policy rules
    exact build_congr_rules _ hkind options rules

theorem strict_build_range_char :
    (∃ built,
      Profile.build ⟨.enUS, .strict, .range⟩ .rangeChar ⟨true, "rangeChar:10,1"⟩ = .ok built ∧
        Profile.build ⟨.enUS, .lenient, .range⟩ .rangeChar ⟨true, "rangeChar:10,1"⟩ = .ok built) ∧
    Profile.build ⟨.enUS, .strict, .range⟩ .rangeChar ⟨true, "rangeChar:18446744073709551616,1"⟩ =
      .error (.overflow .rangeChar "rangeChar:18446744073709551616,1") ∧
    Profile.build ⟨.enUS, .strict, .range⟩ .email ⟨true, "rangeChar:10,1"⟩ =
      Profile.build ⟨.enUS, .strict, .range⟩ .email ⟨true, ""⟩ := by
  have hread : Arguments.read .refuse .rangeChar "rangeChar:10,1" = .ok (.two 10 1) := by decide
  have hoverflow : Arguments.read .refuse .rangeChar "rangeChar:18446744073709551616,1" =
      .error (.overflow .rangeChar "rangeChar:18446744073709551616,1") := by decide
  obtain ⟨-, hfails, hsame, -⟩ :=
    strict_build_refines_lenient .enUS .range .rangeChar ⟨true, "rangeChar:10,1"⟩
  obtain ⟨-, hfails', -, -⟩ := strict_build_refines_lenient .enUS .range .rangeChar
    ⟨true, "rangeChar:18446744073709551616,1"⟩
  obtain ⟨-, -, -, hemail⟩ := strict_build_refines_lenient .enUS .range .email ⟨true, ""⟩
  refine ⟨?_, (hfails' _).mpr ⟨by decide, hoverflow⟩, hemail rfl .strict "rangeChar:10,1"⟩
  cases hbuild : Profile.build ⟨.enUS, .strict, .range⟩ .rangeChar ⟨true, "rangeChar:10,1"⟩ with
  | error e =>
      have herror := ((hfails e).mp hbuild).2
      rw [hread] at herror
      cases herror
  | ok built => exact ⟨built, rfl, hsame built hbuild⟩

end FormCheck.Profile
