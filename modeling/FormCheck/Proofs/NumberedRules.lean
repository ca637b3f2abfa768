import FormCheck.Profile
import FormCheck.Proofs.RulesTexts

namespace FormCheck.Profile

open Log (Logged)

/-- What a kind measures of a value: its columns, or else its characters. -/
def measure (kind : Kind) (value : String) : Nat :=
  if kind = .rangeChar then displayWidth value else value.length

/-- The interval that the rule of a kind compares with. Of two numbers the kinds with one limit take
the first. -/
def enforced (kind : Kind) (args : Option Arguments) : Bounds :=
  match kind with
  | .maxLength => .between none (args.map Arguments.first)
  | .minLength => .between (args.map Arguments.first) none
  | _ => intervalOf args

/-- The rule that is made of a kind with numbers, whichever of the four it is. -/
def numberedRule (profile : Profile) (kind : Kind) (required : Bool) (args : Option Arguments) :
    Rule :=
  let bounds := enforced kind args
  match kind with
  | .maxLength => profile.lengthRule kind required bounds (.bound (args.map Arguments.first))
  | .minLength => profile.lengthRule kind required bounds (.bound (args.map Arguments.first))
  | .rangeChar => profile.testRule kind required (.range bounds.min bounds.max) (widthTest bounds)
  | _ => profile.lengthRule kind required bounds (.range bounds.min bounds.max)

theorem rulesOf_eq_map_arguments (profile : Profile) {kind : Kind} (hkind : kind.arity ≠ 0)
    (options : RuleOptions) :
    profile.rulesOf kind options =
      (profile.arguments kind options.rules).map fun args =>
        args >>= fun args => pure [profile.numberedRule kind options.required args] := by
  cases kind with
  | maxLength | minLength | rangeLength | rangeChar =>
      simp only [rulesOf]
      cases profile.arguments _ options.rules <;> rfl
  | _ => exact absurd rfl hkind

theorem run_lengthRule_eq_nil_iff (profile : Profile) (kind : Kind) (required : Bool)
    (bounds : Bounds) (detail : Detail) (value : String) (context : Context) :
    ((profile.lengthRule kind required bounds detail).run value context).value = [] ↔
      if value = "" then required = false else bounds.contains value.length = true := by
  change (if value = "" then if required then _ else [] else
    if bounds.contains value.length then [] else _) = [] ↔ _
  by_cases hvalue : value = ""
  · cases required <;> simp [hvalue]
  · cases bounds.contains value.length <;> simp [hvalue]

theorem value_run_testRule (profile : Profile) (kind : Kind) (required : Bool) (detail : Detail)
    (test : String → Logged Bool) (value : String) (context : Context) :
    ((profile.testRule kind required detail test).run value context).value =
      if (test value).value then [] else [profile.locale.compose kind required detail] :=
  rfl

theorem run_testRule_eq_nil_iff (profile : Profile) (kind : Kind) (required : Bool)
    (detail : Detail) (test : String → Logged Bool) (value : String) (context : Context) :
    ((profile.testRule kind required detail test).run value context).value = [] ↔
      (test value).value = true := by
  rw [value_run_testRule]
  cases (test value).value <;> simp

theorem run_numberedRule_eq_nil_iff (profile : Profile) {kind : Kind} (hkind : kind.arity ≠ 0)
    (required : Bool) (args : Option Arguments) (value : String) (context : Context) :
    ((profile.numberedRule kind required args).run value context).value = [] ↔
      if value = "" ∧ kind ≠ .rangeChar then required = false
      else (enforced kind args).contains (measure kind value) = true := by
  cases kind with
  | maxLength | minLength | rangeLength =>
      refine (run_lengthRule_eq_nil_iff profile _ required _ _ value context).trans ?_
      simp [measure]
  | rangeChar =>
      refine (run_testRule_eq_nil_iff profile _ required _ _ value context).trans ?_
      simp [measure, widthTest]
  | _ => exact absurd rfl hkind

theorem arguments_of_lenient {profile : Profile} (hprofile : profile.malformedRules = .lenient)
    (kind : Kind) (rules : String) :
    ∃ entries, profile.arguments kind rules =
      .ok ⟨(Arguments.read .clip kind rules).toOption, entries⟩ := by
  unfold arguments
  cases hrefuse : Arguments.read .refuse kind rules with
  | ok args =>
      rw [Arguments.read_clip_of_read_refuse hrefuse]
      exact ⟨_, rfl⟩
  | error e =>
      rw [hprofile]
      cases Arguments.read .clip kind rules <;> exact ⟨_, rfl⟩

theorem build_of_lenient {profile : Profile} (hprofile : profile.malformedRules = .lenient)
    {kind : Kind} (hkind : kind.arity ≠ 0) (options : RuleOptions) :
    ∃ entries, profile.build kind options =
      .ok ⟨[profile.numberedRule kind options.required
        (Arguments.read .clip kind options.rules).toOption], entries⟩ := by
  obtain ⟨entries, hentries⟩ := arguments_of_lenient hprofile kind options.rules
  unfold build
  rw [rulesOf_eq_map_arguments profile hkind, hentries]
  exact ⟨_, rfl⟩

end FormCheck.Profile
