import FormCheck.Proofs.BuiltRules
import FormCheck.Proofs.IdentityVerdict
import FormCheck.Proofs.JsonFields
import Mathlib.Data.List.Forall2

namespace FormCheck

open Log (Logged)

/-- Two rules that may word their messages differently but agree in everything else, the number of
messages about each value included. -/
structure Rule.SameButWording (rule other : Rule) : Prop where
  kind : rule.kind = other.kind
  valueType : rule.valueType = other.valueType
  required : rule.required = other.required
  isDynamic : rule.isDynamic = other.isDynamic
  pattern? : rule.pattern? = other.pattern?
  bounds? : rule.bounds? = other.bounds?
  told : rule.toJson.without "message" = other.toJson.without "message"
  length_run : ∀ value context,
    (rule.run value context).value.length = (other.run value context).value.length

theorem Rule.SameButWording.accepts_iff {rule other : Rule} (h : rule.SameButWording other)
    (value : String) (context : Context) :
    (rule.run value context).value = [] ↔ (other.run value context).value = [] := by
  rw [← List.length_eq_zero_iff, h.length_run, List.length_eq_zero_iff]

theorem Rule.forall_accepts_iff {rules others : List Rule}
    (h : List.Forall₂ Rule.SameButWording rules others) (value : String) (context : Context) :
    (∀ rule ∈ rules, (rule.run value context).value = []) ↔
      ∀ rule ∈ others, (rule.run value context).value = [] := by
  induction h with
  | nil => exact Iff.rfl
  | cons hrule _ ih =>
      rw [List.forall_mem_cons, List.forall_mem_cons, ih, hrule.accepts_iff]

theorem Rule.length_testFixed (rule : Rule) (value : String) :
    (rule.testFixed value).length =
      (if value = "" then rule.required else !rule.passes value).toNat := by
  unfold testFixed
  split
  · cases rule.required <;> rfl
  · cases rule.passes value <;> rfl

theorem Rule.sameButWording_fixed (kind : Kind) (valueType : ValueType) (required : Bool)
    (check : Check) (message other : Message) :
    (fixed kind valueType required check message).SameButWording
      (fixed kind valueType required check other) where
  kind := rfl
  valueType := rfl
  required := rfl
  isDynamic := rfl
  pattern? := rfl
  bounds? := rfl
  told := Json.without_ofFields_concat _ "message" _ _
  length_run := by
    intro value context
    have hpasses : (fixed kind valueType required check message).passes value =
        (fixed kind valueType required check other).passes value := rfl
    cases check with
    | procedure p => rfl
    | none | pattern p | bounds b =>
        change (testFixed _ value).length = (testFixed _ value).length
        rw [length_testFixed, length_testFixed, hpasses]
        rfl

theorem Rule.sameButWording_dynamic (kind : Kind) (required : Bool) {p q : Procedure}
    (h : ∀ call, (p.run call).value.length = (q.run call).value.length) :
    (dynamic kind required p).SameButWording (dynamic kind required q) where
  kind := rfl
  valueType := rfl
  required := rfl
  isDynamic := rfl
  pattern? := rfl
  bounds? := rfl
  told := rfl
  length_run := fun _ _ => h _

namespace Profile

variable {kind : Kind}

theorem sameButWording_testRule (profile other : Profile) (kind : Kind) (required : Bool)
    (detail : Detail) (test : String → Logged Bool) :
    (profile.testRule kind required detail test).SameButWording
      (other.testRule kind required detail test) := by
  apply Rule.sameButWording_dynamic
  intro call
  change List.length (if (test call.value).value then _ else _) =
      List.length (if (test call.value).value then _ else _)
  split <;> rfl

theorem isValid_verify_congr (locale other : Locale) (value : String) :
    (IdentityNumber.verify locale value).isValid = (IdentityNumber.verify other value).isValid := by
  simp only [IdentityNumber.Verdict.isValid, IdentityNumber.verify,
    IdentityNumber.code_identityVerdict]

theorem length_identityMessages_congr (profile other : Profile) (required : Bool)
    (value : String) :
    (profile.identityMessages required value).length =
      (other.identityMessages required value).length := by
  unfold identityMessages
  split
  · cases required <;> rfl
  · simp only [isValid_verify_congr profile.locale other.locale]
    split <;> rfl

theorem sameButWording_identityRule (profile other : Profile) (required : Bool) :
    (profile.identityRule required).SameButWording (other.identityRule required) := by
  apply Rule.sameButWording_dynamic
  intro call
  exact length_identityMessages_congr profile other required call.value

theorem sameButWording_ruleOf (locale other : Locale) (policy : MalformedRules)
    (dateCheck : DateCheck) (kind : Kind) (required : Bool) (args : Option Arguments) :
    (ruleOf ⟨locale, policy, dateCheck⟩ kind required args).SameButWording
      (ruleOf ⟨other, policy, dateCheck⟩ kind required args) := by
  cases kind with
  | required | email | float | url | integer | rangeLength | maxLength | minLength =>
      exact Rule.sameButWording_fixed _ _ _ _ _ _
  | rangeChar | date | english | englishAndNumber | chinese =>
      exact sameButWording_testRule _ _ _ _ _ _
  | idCards => exact sameButWording_identityRule _ _ _

theorem numbers_congr_locale (locale other : Locale) (policy : MalformedRules)
    (dateCheck : DateCheck) (kind : Kind) (rules : String) :
    numbers ⟨locale, policy, dateCheck⟩ kind rules =
      numbers ⟨other, policy, dateCheck⟩ kind rules :=
  rfl

/-- Under two locales a kind is built from the same rules texts, with the same errors and log
entries, and the rules built are one by one the same up to wording: in kind, type, pattern, limits
and in what an engine is told but for the message. Every value gets equally many messages under
either locale, so that it is accepted under both or under neither. -/
theorem locale_changes_wording_only (locale other : Locale) (policy : MalformedRules)
    (dateCheck : DateCheck) (kind : Kind) (options : RuleOptions) :
    (∀ e, Profile.build ⟨locale, policy, dateCheck⟩ kind options = .error e ↔
      Profile.build ⟨other, policy, dateCheck⟩ kind options = .error e) ∧
    ∀ built built', Profile.build ⟨locale, policy, dateCheck⟩ kind options = .ok built →
      Profile.build ⟨other, policy, dateCheck⟩ kind options = .ok built' →
        built.entries = built'.entries ∧
        List.Forall₂ Rule.SameButWording built.value built'.value ∧
        ∀ value context, (∀ rule ∈ built.value, (rule.run value context).value = []) ↔
          ∀ rule ∈ built'.value, (rule.run value context).value = [] := by
  constructor
  · intro e
    rw [build_eq_error_iff, build_eq_error_iff, numbers_congr_locale locale other]
  · intro built built' hbuilt hbuilt'
    obtain ⟨args, hargs, rfl⟩ := build_eq_ok_iff.mp hbuilt
    obtain ⟨args', hargs', rfl⟩ := build_eq_ok_iff.mp hbuilt'
    rw [numbers_congr_locale locale other, hargs'] at hargs
    obtain rfl := Except.ok.inj hargs
    have hrules : List.Forall₂ Rule.SameButWording
        (madeFrom ⟨locale, policy, dateCheck⟩ kind options.required args').value
        (madeFrom ⟨other, policy, dateCheck⟩ kind options.required args').value :=
      .cons (sameButWording_ruleOf locale other policy dateCheck kind options.required args'.value)
        .nil
    exact ⟨rfl, hrules, Rule.forall_accepts_iff hrules⟩

theorem locale_changes_wording_of_dates :
    ∃ built built', Profile.build ⟨.zhCN, .strict, .calendar⟩ .date ⟨true, ""⟩ = .ok built ∧
      Profile.build ⟨.enUS, .strict, .calendar⟩ .date ⟨true, ""⟩ = .ok built' ∧
      built.value.length = built'.value.length ∧
      ∀ value context, (∀ rule ∈ built.value, (rule.run value context).value = []) ↔
        ∀ rule ∈ built'.value, (rule.run value context).value = [] := by
  have hdate : Kind.date.arity = 0 := rfl
  obtain ⟨entries, hbuilt⟩ :=
    build_of_arity_eq_zero ⟨.zhCN, .strict, .calendar⟩ hdate ⟨true, ""⟩
  obtain ⟨entries', hbuilt'⟩ :=
    build_of_arity_eq_zero ⟨.enUS, .strict, .calendar⟩ hdate ⟨true, ""⟩
  obtain ⟨-, hsame⟩ := locale_changes_wording_only .zhCN .enUS .strict .calendar .date ⟨true, ""⟩
  obtain ⟨-, hrules, haccepts⟩ := hsame _ _ hbuilt hbuilt'
  exact ⟨_, _, hbuilt, hbuilt', hrules.length_eq, haccepts⟩

end Profile

end FormCheck
