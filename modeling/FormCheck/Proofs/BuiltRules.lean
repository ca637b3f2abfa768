import FormCheck.Proofs.NumberedRules

namespace FormCheck

open Log (Logged)

namespace Profile

variable {profile other : Profile} {kind : Kind}

/-- The numbers for a rule of a kind. For a kind without numbers nothing is read. -/
def numbers (profile : Profile) (kind : Kind) (rules : String) :
    Except ArgumentsError (Logged (Option Arguments)) :=
  if kind.arity = 0 then .ok (pure none) else profile.arguments kind rules

/-- The one rule that a profile makes of a kind once its numbers are known. -/
def ruleOf (profile : Profile) (kind : Kind) (required : Bool) (args : Option Arguments) : Rule :=
  match kind with
  | .required => .fixed .required .string true .none (profile.template .required)
  | .email => .fixed .email .email required .none (profile.template .email)
  | .float => profile.patternRule .float .float required
  | .url => profile.patternRule .url .url required
  | .integer => profile.patternRule .integer .integer required
  | .date => profile.testRule .date required .none fun v => pure (profile.isDate v)
  | .english => profile.testRule .english required .none fun v => pure (isEnglish v)
  | .englishAndNumber =>
    profile.testRule .englishAndNumber required .none fun v => pure (isEnglishAndNumber v)
  | .chinese => profile.testRule .chinese required .none fun v => pure (isChinese v)
  | .idCards => profile.identityRule required
  | .rangeLength | .maxLength | .minLength | .rangeChar =>
    profile.numberedRule kind required args

/-- The rule that is made when its numbers are known, and what is logged about it. -/
def madeFrom (profile : Profile) (kind : Kind) (required : Bool)
    (args : Logged (Option Arguments)) : Logged (List Rule) := do
  let args ← args
  Logged.log .debug logTarget (builtMessage kind required 1)
  pure [profile.ruleOf kind required args]

theorem rulesOf_eq_map_numbers (profile : Profile) (kind : Kind) (options : RuleOptions) :
    profile.rulesOf kind options =
      (profile.numbers kind options.rules).map fun args =>
        args >>= fun args => pure [profile.ruleOf kind options.required args] := by
  by_cases hkind : kind.arity = 0
  · rw [numbers, if_pos hkind]
    cases kind with
    | rangeLength | maxLength | minLength | rangeChar => cases hkind
    | _ => rfl
  · rw [numbers, if_neg hkind, rulesOf_eq_map_arguments profile hkind]
    cases kind with
    | rangeLength | maxLength | minLength | rangeChar => rfl
    | _ => exact absurd rfl hkind

/-- To build a kind is to read its numbers and to make its one rule of them. -/
theorem build_eq_map_numbers (profile : Profile) (kind : Kind) (options : RuleOptions) :
    profile.build kind options =
      (profile.numbers kind options.rules).map (profile.madeFrom kind options.required) := by
  rw [build, rulesOf_eq_map_numbers]
  cases profile.numbers kind options.rules with
  | error e => rfl
  | ok args => exact congrArg Except.ok (bind_assoc args _ _)

theorem build_eq_error_iff {options : RuleOptions} {e : ArgumentsError} :
    profile.build kind options = .error e ↔ profile.numbers kind options.rules = .error e := by
  rw [build_eq_map_numbers]
  cases profile.numbers kind options.rules <;> simp [Except.map]

theorem build_eq_ok_iff {options : RuleOptions} {built : Logged (List Rule)} :
    profile.build kind options = .ok built ↔
      ∃ args, profile.numbers kind options.rules = .ok args ∧
        profile.madeFrom kind options.required args = built := by
  rw [build_eq_map_numbers]
  cases profile.numbers kind options.rules <;> simp [Except.map]

theorem value_of_build {options : RuleOptions} {built : Logged (List Rule)}
    (h : profile.build kind options = .ok built) :
    ∃ args, built.value = [profile.ruleOf kind options.required args] := by
  obtain ⟨args, -, rfl⟩ := build_eq_ok_iff.mp h
  exact ⟨args.value, rfl⟩

theorem build_of_arity_eq_zero (profile : Profile) (hkind : kind.arity = 0)
    (options : RuleOptions) :
    ∃ entries, profile.build kind options =
      .ok ⟨[profile.ruleOf kind options.required none], entries⟩ := by
  have hnumbers : profile.numbers kind options.rules = .ok (pure none) := if_pos hkind
  exact ⟨_, build_eq_ok_iff.mpr ⟨_, hnumbers, rfl⟩⟩

theorem ruleOf_congr (hlocale : profile.locale = other.locale)
    (hdates : profile.dateCheck = other.dateCheck) (kind : Kind) (required : Bool)
    (args : Option Arguments) :
    profile.ruleOf kind required args = other.ruleOf kind required args := by
  obtain ⟨locale, malformedRules, dateCheck⟩ := profile
  obtain ⟨locale', malformedRules', dateCheck'⟩ := other
  cases hlocale
  cases hdates
  cases kind <;> rfl

theorem run_testRule_congr (profile : Profile) (kind : Kind) (required : Bool) (detail : Detail)
    {test : String → Logged Bool} {value value' : String} (h : test value = test value')
    (context context' : Context) :
    (profile.testRule kind required detail test).run value context =
      (profile.testRule kind required detail test).run value' context' := by
  change (test value >>= _) >>= _ = (test value' >>= _) >>= _
  rw [h]

end Profile

/-- Made by some profile, of some kind and with some options. -/
def Rule.Built (rule : Rule) : Prop :=
  ∃ (profile : Profile) (kind : Kind) (options : RuleOptions) (built : Logged (List Rule)),
    profile.build kind options = .ok built ∧ rule ∈ built.value

theorem Rule.built_iff {rule : Rule} :
    rule.Built ↔ ∃ (profile : Profile) (kind : Kind) (options : RuleOptions)
      (args : Logged (Option Arguments)), profile.numbers kind options.rules = .ok args ∧
        profile.ruleOf kind options.required args.value = rule := by
  constructor
  · rintro ⟨profile, kind, options, built, hbuild, hmem⟩
    obtain ⟨args, hargs, rfl⟩ := Profile.build_eq_ok_iff.mp hbuild
    exact ⟨profile, kind, options, args, hargs, (List.mem_singleton.mp hmem).symm⟩
  · rintro ⟨profile, kind, options, args, hargs, rfl⟩
    exact ⟨profile, kind, options, _, Profile.build_eq_ok_iff.mpr ⟨args, hargs, rfl⟩,
      List.mem_singleton_self _⟩

end FormCheck
