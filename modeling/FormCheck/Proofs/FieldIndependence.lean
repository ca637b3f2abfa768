import FormCheck.Form
import FormCheck.Proofs.BuiltRules
import Mathlib.Data.List.Basic

namespace FormCheck

open Log (Logged)

/-- A rule whose messages depend on the value alone, and not on the other fields of the form. -/
def Rule.IgnoresContext (rule : Rule) : Prop :=
  ∀ value context context', rule.run value context = rule.run value context'

theorem Rule.run_of_not_dynamic {rule : Rule} (h : rule.isDynamic = false) (value : String)
    (context : Context) : rule.run value context = pure (rule.testFixed value) := by
  obtain ⟨kind, valueType, required, check, message⟩ := rule
  cases check with
  | procedure p => cases h
  | _ => rfl

theorem Rule.ignoresContext_of_not_dynamic {rule : Rule} (h : rule.isDynamic = false) :
    rule.IgnoresContext := by
  intro value context context'
  rw [run_of_not_dynamic h, run_of_not_dynamic h]

theorem Profile.ignoresContext_ruleOf (profile : Profile) (kind : Kind) (required : Bool)
    (args : Option Arguments) : (profile.ruleOf kind required args).IgnoresContext := by
  cases kind with
  | date | english | englishAndNumber | chinese | rangeChar =>
      exact fun value => run_testRule_congr profile _ required _ rfl
  | idCards => exact fun value context context' => rfl
  | _ => exact Rule.ignoresContext_of_not_dynamic rfl

theorem Rule.Built.ignoresContext {rule : Rule} (h : rule.Built) : rule.IgnoresContext := by
  obtain ⟨profile, kind, options, args, -, rfl⟩ := Rule.built_iff.mp h
  exact profile.ignoresContext_ruleOf kind options.required args.value

namespace Field

variable {field : Field} {value : String} {context context' : Context}

theorem value_validate (field : Field) (value : String) (context : Context) :
    (field.validate value context).value = field.rules.flatMap fun rule =>
      (rule.run value context).value.map fun message =>
        { field := field.name, message, constraint := rule.kind.name, value := some value } :=
  rfl

theorem value_validate_congr (h : ∀ rule ∈ field.rules, rule.IgnoresContext) :
    (field.validate value context).value = (field.validate value context').value := by
  rw [value_validate, value_validate]
  refine List.flatMap_congr fun rule hrule => ?_
  rw [h rule hrule value context context']

theorem field_eq_of_mem_validate {failure : Failure}
    (h : failure ∈ (field.validate value context).value) : failure.field = field.name := by
  rw [value_validate] at h
  obtain ⟨rule, -, hmessage⟩ := List.mem_flatMap.mp h
  obtain ⟨message, -, rfl⟩ := List.mem_map.mp hmessage
  rfl

end Field

/-- The value that counts for a field. One that was not entered counts as empty. -/
def Entered.valueOf (entered : Entered) (name : String) : String :=
  (entered.get? name).getD ""

theorem Failure.ofField_flatMap {fields : List Field} {failures : Field → List Failure}
    (h : ∀ field ∈ fields, ∀ failure ∈ failures field, failure.field = field.name) (name : String) :
    ofField (fields.flatMap failures) name =
      (fields.filter (·.name == name)).flatMap failures := by
  induction fields with
  | nil => rfl
  | cons field fields ih =>
      have hrest := ih fun other hother => h other (List.mem_cons_of_mem field hother)
      have hfield := h field List.mem_cons_self
      unfold ofField at hrest ⊢
      rw [List.flatMap_cons, List.filter_append, hrest]
      by_cases hname : field.name = name
      · have hkept : (failures field).filter (·.field == name) = failures field :=
          List.filter_eq_self.mpr fun failure hfailure => by simp [hfield failure hfailure, hname]
        rw [hkept, List.filter_cons_of_pos (by simpa using hname), List.flatMap_cons]
      · have hdropped : (failures field).filter (·.field == name) = [] :=
          List.filter_eq_nil_iff.mpr fun failure hfailure => by
            simp [hfield failure hfailure, hname]
        rw [hdropped, List.filter_cons_of_neg (by simpa using hname), List.nil_append]

namespace Form

variable {form : Form}

theorem value_validate (hform : ∀ field ∈ form.fields, ∀ rule ∈ field.rules, rule.Built)
    (entered : Entered) :
    (form.validate entered).value = form.fields.flatMap fun field =>
      (field.validate (entered.valueOf field.name) {}).value := by
  refine List.flatMap_congr fun field hfield => ?_
  exact Field.value_validate_congr fun rule hrule => (hform field hfield rule hrule).ignoresContext

theorem flatMap_named_congr {fields : List Field} {name : String}
    {failures failures' : Field → List Failure}
    (h : ∀ field, field.name = name → failures field = failures' field) :
    (fields.filter (·.name == name)).flatMap failures =
      (fields.filter (·.name == name)).flatMap failures' := by
  refine List.flatMap_congr fun field hfield => h field ?_
  simpa using (List.mem_filter.mp hfield).2

theorem ofField_validate (hform : ∀ field ∈ form.fields, ∀ rule ∈ field.rules, rule.Built)
    (entered : Entered) (name : String) :
    Failure.ofField (form.validate entered).value name =
      (form.fields.filter (·.name == name)).flatMap fun field =>
        (field.validate (entered.valueOf name) {}).value := by
  rw [value_validate hform, Failure.ofField_flatMap fun field _ failure hfailure =>
    Field.field_eq_of_mem_validate hfailure]
  exact flatMap_named_congr fun field hname => by rw [hname]

/-- A form of built rules is valid exactly when each of its fields is, and the failures with one
name are, in order, those of the fields with that name, each judged alone by the value that was
entered for it. A failure carries that value and the kind of the rule. Hence what was entered under
other names makes no difference. -/
theorem validate_field_by_field (hform : ∀ field ∈ form.fields, ∀ rule ∈ field.rules, rule.Built)
    (entered : Entered) :
    ((form.validate entered).value = [] ↔
      ∀ field ∈ form.fields, (field.validate (entered.valueOf field.name) {}).value = []) ∧
    (∀ name, Failure.ofField (form.validate entered).value name =
      (form.fields.filter (·.name == name)).flatMap fun field =>
        (field.validate (entered.valueOf name) {}).value) ∧
    (∀ name, Failure.ofField (form.validate entered).value name =
      (form.fields.filter (·.name == name)).flatMap fun field =>
        field.rules.flatMap fun rule =>
          (rule.run (entered.valueOf name) {}).value.map fun message =>
            { field := name, message, constraint := rule.kind.name,
              value := some (entered.valueOf name) }) ∧
    ∀ (other : Entered) (name : String), other.valueOf name = entered.valueOf name →
      Failure.ofField (form.validate other).value name =
        Failure.ofField (form.validate entered).value name := by
  refine ⟨?_, ofField_validate hform entered, fun name => ?_, fun other name hvalue => ?_⟩
  · rw [value_validate hform, List.flatMap_eq_nil_iff]
  · rw [ofField_validate hform]
    exact flatMap_named_congr fun field hname => by rw [Field.value_validate, hname]
  · rw [ofField_validate hform, ofField_validate hform, hvalue]

theorem validate_repeated_name :
    let form : Form := ⟨[⟨"age", [Profile.standard.ruleOf .integer true none]⟩,
      ⟨"card", [Profile.standard.ruleOf .idCards true none]⟩,
      ⟨"age", [Profile.standard.ruleOf .maxLength false (some (.one 2))]⟩]⟩
    (∀ field ∈ form.fields, ∀ rule ∈ field.rules, rule.Built) ∧
      (Failure.ofField (form.validate [("card", "x"), ("age", "1.5")]).value "age").map
        Failure.constraint = ["integer", "maxLength"] ∧
      Failure.ofField (form.validate [("age", "1.5")]).value "age" =
        Failure.ofField (form.validate [("card", "x"), ("age", "1.5")]).value "age" := by
  intro form
  have hform : ∀ field ∈ form.fields, ∀ rule ∈ field.rules, rule.Built := by
    simp only [form, List.forall_mem_singleton, List.forall_mem_cons, Rule.built_iff]
    refine ⟨?_, ?_, ?_⟩
    · exact ⟨.standard, .integer, ⟨true, ""⟩, pure none, rfl, rfl⟩
    · exact ⟨.standard, .idCards, ⟨true, ""⟩, pure none, rfl, rfl⟩
    · exact ⟨.standard, .maxLength, ⟨false, "maxLength:2"⟩, pure (some (.one 2)), rfl, rfl⟩
  obtain ⟨-, -, hfailures, hsame⟩ :=
    validate_field_by_field hform [("card", "x"), ("age", "1.5")]
  refine ⟨hform, ?_, hsame [("age", "1.5")] "age" rfl⟩
  rw [hfailures]
  decide

end Form

end FormCheck
