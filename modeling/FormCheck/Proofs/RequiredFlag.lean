import FormCheck.Proofs.SingleReports

namespace FormCheck

open Log (Logged)

/-- A message of an optional rule as the required rule of the kind words it. Three kinds word both
alike; all others put the phrase for required fields in front. -/
def Locale.asRequired (locale : Locale) (kind : Kind) (message : String) : String :=
  if kind ∈ [.required, .email, .idCards] then message else locale.requiredPhrase ++ message

theorem Locale.compose_true (locale : Locale) (kind : Kind) (detail : Detail) :
    locale.compose kind true detail =
      locale.requiredPhrase ++ locale.compose kind false detail := by
  have hoptional : locale.compose kind false detail = locale.sentence kind detail :=
    String.empty_append
  rw [hoptional]
  rfl

/-- About a value that is not empty the first rule says what the second says, in the words that `f`
makes of it. -/
def Rule.Rewords (f : String → String) (rule other : Rule) : Prop :=
  ∀ value, value ≠ "" → ∀ context,
    (rule.run value context).value = (other.run value context).value.map f

theorem Rule.rewords_of_not_dynamic {f : String → String} {rule other : Rule}
    (h : other.isDynamic = false) (hcheck : rule.check = other.check)
    (htype : rule.valueType = other.valueType)
    (hmessage : rule.messageText = f other.messageText) : rule.Rewords f other := by
  intro value hvalue context
  have hdynamic : rule.isDynamic = false := by
    unfold isDynamic at h ⊢
    rw [hcheck]
    exact h
  have hpasses : rule.passes value = other.passes value := by
    unfold passes
    rw [hcheck, htype]
  rw [run_of_not_dynamic hdynamic, run_of_not_dynamic h, Logged.value_pure, Logged.value_pure]
  unfold testFixed
  rw [if_neg hvalue, if_neg hvalue, hpasses, hmessage]
  split <;> rfl

namespace Profile

theorem rewords_testRule (profile : Profile) {f : String → String} {kind : Kind} {detail : Detail}
    (hmessage : profile.locale.compose kind true detail =
      f (profile.locale.compose kind false detail)) (test : String → Logged Bool) :
    (profile.testRule kind true detail test).Rewords f
      (profile.testRule kind false detail test) := by
  intro value _ context
  rw [value_run_testRule, value_run_testRule, hmessage]
  split <;> rfl

theorem rewords_identityRule (profile : Profile) :
    (profile.identityRule true).Rewords id (profile.identityRule false) := by
  intro value hvalue context
  have hmessages : profile.identityMessages true value = profile.identityMessages false value := by
    unfold identityMessages
    rw [if_neg hvalue, if_neg hvalue]
  change profile.identityMessages true value = (profile.identityMessages false value).map id
  rw [List.map_id, hmessages]

theorem rewords_ruleOf (profile : Profile) (kind : Kind) (args : Option Arguments) :
    (profile.ruleOf kind true args).Rewords (profile.locale.asRequired kind)
      (profile.ruleOf kind false args) := by
  cases kind with
  | required | email => exact Rule.rewords_of_not_dynamic rfl rfl rfl rfl
  | float | url | integer | rangeLength | maxLength | minLength =>
      exact Rule.rewords_of_not_dynamic rfl rfl rfl (profile.locale.compose_true _ _)
  | rangeChar | date | english | englishAndNumber | chinese =>
      exact profile.rewords_testRule (profile.locale.compose_true _ _) _
  | idCards => exact profile.rewords_identityRule

/-- Whether a field is required makes no difference to whether its rules can be built. If they can,
the required rule and the optional one accept the same values among those that are not empty. Each
rejects the others with one message, the same for three kinds and with the phrase for required
fields in front for all others. -/
theorem required_matters_for_empty_only (profile : Profile) (kind : Kind) (rules : String) :
    (∃ e, profile.build kind ⟨true, rules⟩ = .error e ∧
      profile.build kind ⟨false, rules⟩ = .error e) ∨
    ∃ built built' rule other, profile.build kind ⟨true, rules⟩ = .ok built ∧
      profile.build kind ⟨false, rules⟩ = .ok built' ∧
      built.value = [rule] ∧ built'.value = [other] ∧
      ∀ value, value ≠ "" → ∀ context,
        ((rule.run value context).value = [] ∧ (other.run value context).value = []) ∨
        ∃ message, (other.run value context).value = [message] ∧
          (rule.run value context).value = [profile.locale.asRequired kind message] := by
  cases hnumbers : profile.numbers kind rules with
  | error e =>
      exact Or.inl ⟨e, build_eq_error_iff.mpr hnumbers, build_eq_error_iff.mpr hnumbers⟩
  | ok args =>
      refine Or.inr ⟨_, _, profile.ruleOf kind true args.value,
        profile.ruleOf kind false args.value, build_eq_ok_iff.mpr ⟨args, hnumbers, rfl⟩,
        build_eq_ok_iff.mpr ⟨args, hnumbers, rfl⟩, rfl, rfl, ?_⟩
      intro value hvalue context
      have hrewords := profile.rewords_ruleOf kind args.value value hvalue context
      have hother := (profile.reportsOnce_ruleOf kind false args.value).atMostOne value context
      rcases hother with hnone | ⟨message, -, hmessage⟩
      · rw [hnone] at hrewords
        exact Or.inl ⟨hrewords, hnone⟩
      · rw [hmessage] at hrewords
        exact Or.inr ⟨message, hmessage, hrewords⟩

theorem required_matters_for_width_wording :
    ∃ built built' rule other,
      Profile.build ⟨.enUS, .strict, .range⟩ .rangeChar ⟨true, "rangeChar:3,1"⟩ = .ok built ∧
      Profile.build ⟨.enUS, .strict, .range⟩ .rangeChar ⟨false, "rangeChar:3,1"⟩ = .ok built' ∧
      built.value = [rule] ∧ built'.value = [other] ∧ "abcd" ≠ "" ∧
      (other.run "abcd" {}).value = ["character width (1-3)"] ∧
      (rule.run "abcd" {}).value = ["cannot be empty character width (1-3)"] := by
  have hnumbers : numbers ⟨.enUS, .strict, .range⟩ .rangeChar "rangeChar:3,1" =
      .ok (pure (some (.two 3 1))) := rfl
  have hoptional : Profile.build ⟨.enUS, .strict, .range⟩ .rangeChar ⟨false, "rangeChar:3,1"⟩ =
      .ok (madeFrom ⟨.enUS, .strict, .range⟩ .rangeChar false (pure (some (.two 3 1)))) :=
    build_eq_ok_iff.mpr ⟨_, hnumbers, rfl⟩
  rcases required_matters_for_empty_only ⟨.enUS, .strict, .range⟩ .rangeChar "rangeChar:3,1" with
    ⟨e, -, herror⟩ | ⟨built, built', rule, other, hbuilt, hbuilt', hrule, hother, hsays⟩
  · rw [hoptional] at herror
    cases herror
  · rw [hoptional] at hbuilt'
    obtain rfl := Except.ok.inj hbuilt'
    obtain rfl := List.singleton_inj.mp hother
    have hne : "abcd" ≠ "" := by decide
    have hmessages : ((ruleOf ⟨.enUS, .strict, .range⟩ .rangeChar false
        (some (.two 3 1))).run "abcd" {}).value = ["character width (1-3)"] := by decide
    refine ⟨_, _, _, _, hbuilt, hoptional, hrule, hother, hne, hmessages, ?_⟩
    rcases hsays "abcd" hne {} with ⟨-, hnone⟩ | ⟨message, hmessage, hrequired⟩
    · cases hmessages.symm.trans hnone
    · obtain rfl := List.singleton_inj.mp (hmessages.symm.trans hmessage)
      exact hrequired

end Profile

end FormCheck
