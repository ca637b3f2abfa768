import FormCheck.Proofs.BuiltRules
import FormCheck.Proofs.JsonFields
import FormCheck.Proofs.PatternSources

namespace FormCheck

/-- What an engine takes out of the object of a rule. -/
structure Told where
  type : Option String
  required : Bool
  pattern : Option String
  min : Option Nat
  max : Option Nat
  message : Option String

namespace Told

def boolean? : Json → Option Bool
  | .bool b => some b
  | _ => none

/-- The number of a JSON value that is a whole one and not negative. -/
def natural? : Json → Option Nat
  | .int (.ofNat n) => some n
  | _ => none

/-- What an engine reads of an object. It passes over all other fields, and over fields of another
type. -/
def ofJson (json : Json) : Told where
  type := (json.field? "type").bind Json.text?
  required := ((json.field? "required").bind boolean?).getD false
  pattern := (json.field? "pattern").bind Json.text?
  min := (json.field? "min").bind natural?
  max := (json.field? "max").bind natural?
  message := (json.field? "message").bind Json.text?

/-- Whether a value matches a pattern that is given by its text. -/
def fits (source value : String) : Bool :=
  (Pattern.ofSource? source).any (·.matchesText value)

/-- Whether a value that is not empty satisfies everything that was told. -/
def allows (told : Told) (value : String) : Bool :=
  (told.type != some "email" || Pattern.Name.email.pattern.matchesText value) &&
    told.pattern.all (fits · value) && told.min.all (· ≤ value.length) &&
      told.max.all (value.length ≤ ·)

/-- The messages of an engine about a value. An empty value is judged by presence alone. -/
def judge (told : Told) (value : String) : List String :=
  if value = "" then (if told.required then [told.message.getD ""] else [])
  else if told.allows value then []
  else [told.message.getD ""]

theorem bind_text?_map (value? : Option α) (text : α → String) :
    (value?.map fun value => Json.str (text value)).bind Json.text? = value?.map text := by
  cases value? <;> rfl

theorem bind_natural?_map (n? : Option Nat) : (n?.map Json.ofNat).bind natural? = n? := by
  cases n? <;> rfl

end Told

namespace Rule

open Told (fits)

variable {rule : Rule}

/-- The type that an engine is told of a rule. -/
def typeName? (rule : Rule) : Option String :=
  if rule.kind = .required then none else some rule.valueType.name

theorem field?_toJson (rule : Rule) (name : String) :
    rule.toJson.field? name =
      (if "message" = name then rule.message.map fun m => Json.str m.render else none).or
        (((Json.ofFields rule.checkFields).field? name).or
          ((if "required" = name then some (.bool rule.required) else none).or
            (if "type" = name then rule.typeName?.map fun type => Json.str type else none))) := by
  have hpairs : ("required", Json.bool rule.required) :: rule.checkFields =
    [("required", Json.bool rule.required)] ++ rule.checkFields := rfl
  have htype : (if rule.kind = .required then [] else [("type", Json.str rule.valueType.name)]) =
      (rule.typeName?.map fun type => ("type", Json.str type)).toList := by
    unfold typeName?
    split <;> rfl
  rw [toJson, hpairs, htype, Json.field?_ofFields_append, Json.field?_ofFields_append,
    Json.field?_ofFields_append, Json.field?_ofFields_toList, Json.field?_ofFields_singleton,
    Json.field?_ofFields_toList, Option.or_assoc]

theorem field?_checkFields (hstatic : rule.isDynamic = false) (name : String) :
    (Json.ofFields rule.checkFields).field? name =
      (if "max" = name then (rule.bounds?.bind Bounds.max).map Json.ofNat else none).or
        ((if "min" = name then (rule.bounds?.bind Bounds.min).map Json.ofNat else none).or
          (if "pattern" = name then rule.pattern?.map fun p => Json.str p.source else none)) := by
  obtain ⟨kind, valueType, required, check, message⟩ := rule
  cases check with
  | none => simp [checkFields, bounds?, pattern?, Json.field?_ofFields]
  | pattern p => simp [checkFields, bounds?, pattern?, Json.field?_ofFields_singleton]
  | bounds b =>
      simp [checkFields, bounds?, pattern?, Json.field?_ofFields_append,
        Json.field?_ofFields_toList]
  | procedure p => cases hstatic

theorem ofJson_toJson (hstatic : rule.isDynamic = false) :
    Told.ofJson rule.toJson =
      { type := rule.typeName?
        required := rule.required
        pattern := rule.pattern?.map Pattern.source
        min := rule.bounds?.bind Bounds.min
        max := rule.bounds?.bind Bounds.max
        message := rule.message.map Message.render } := by
  have htype : (rule.typeName?.map fun type => Json.str type).bind Json.text? = rule.typeName? := by
    cases rule.typeName? <;> rfl
  simp only [Told.ofJson, field?_toJson, field?_checkFields hstatic, String.reduceEq, reduceIte,
    Option.none_or, Option.or_none, Told.bind_text?_map, Told.bind_natural?_map, htype]
  rfl

/-- The type is tested where the rule tests nothing else, and is told there, and a pattern can be
read back. -/
structure WhollyTold (rule : Rule) : Prop where
  static : rule.isDynamic = false
  email : rule.valueType = .email → rule.kind ≠ .required ∧ rule.check = .none
  readable : ∀ p ∈ rule.pattern?, p.readable = true

theorem WhollyTold.typeName?_bne_email (h : rule.WhollyTold) :
    (rule.typeName? != some "email") = (rule.valueType != .email) := by
  unfold typeName?
  cases hvalueType : rule.valueType with
  | string => split <;> rfl
  | email =>
      rw [if_neg (h.email hvalueType).1]
      rfl

theorem WhollyTold.valueType_bne_email (h : rule.WhollyTold) (hcheck : rule.check ≠ .none) :
    (rule.valueType != .email) = true :=
  bne_iff_ne.mpr fun hvalueType => hcheck (h.email hvalueType).2

theorem passes_eq_allows (h : rule.WhollyTold) (value : String) :
    rule.passes value = (Told.ofJson rule.toJson).allows value := by
  rw [ofJson_toJson h.static, Told.allows, h.typeName?_bne_email]
  cases hcheck : rule.check with
  | none => simp [passes, pattern?, bounds?, hcheck]
  | pattern p =>
      have hvalueType := h.valueType_bne_email (by simp [hcheck])
      have hfits : fits p.source value = p.matchesText value := by
        rw [fits, Pattern.ofSource?_source (h.readable p (by simp [pattern?, hcheck]))]
        exact Pattern.matchesText_regrouped p value
      simp [passes, pattern?, bounds?, hcheck, hvalueType, hfits]
  | bounds b =>
      have hvalueType := h.valueType_bne_email (by simp [hcheck])
      simp [passes, pattern?, bounds?, hcheck, hvalueType, Bounds.contains]
  | procedure p =>
      have hdynamic : rule.isDynamic = true := by simp [isDynamic, hcheck]
      rw [h.static] at hdynamic
      cases hdynamic

theorem run_eq_judge (h : rule.WhollyTold) (value : String) (context : Context) :
    rule.run value context = pure ((Told.ofJson rule.toJson).judge value) := by
  have hrun : rule.run value context = pure (rule.testFixed value) := by
    obtain ⟨kind, valueType, required, check, message⟩ := rule
    cases check with
    | procedure p => cases h.static
    | _ => rfl
  rw [hrun, testFixed, Told.judge, passes_eq_allows h, ofJson_toJson h.static]
  rfl

theorem Built.whollyTold (h : rule.Built) (hstatic : rule.isDynamic = false) : rule.WhollyTold := by
  obtain ⟨profile, kind, options, args, -, rfl⟩ := built_iff.mp h
  cases kind with
  | required | rangeLength | maxLength | minLength =>
      exact ⟨rfl, by rintro ⟨⟩, by rintro p ⟨⟩⟩
  | email => exact ⟨rfl, fun _ => ⟨Kind.noConfusion, rfl⟩, by rintro p ⟨⟩⟩
  | float | url | integer =>
      refine ⟨rfl, by rintro ⟨⟩, ?_⟩
      rintro p ⟨⟩
      exact Pattern.readable_pattern _
  | date | english | englishAndNumber | chinese | rangeChar | idCards => cases hstatic

/-- An engine that is given nothing but the object of a built rule without a procedure judges every
value as the rule does. Two such rules of which it is told the same hence give the same messages. -/
theorem run_determined_by_toJson :
    (∀ rule : Rule, rule.Built → rule.isDynamic = false → ∀ value context,
      rule.run value context = pure ((Told.ofJson rule.toJson).judge value)) ∧
    ∀ rule other : Rule, rule.Built → other.Built → rule.isDynamic = false →
      other.isDynamic = false → rule.toJson = other.toJson →
        ∀ value context context', rule.run value context = other.run value context' := by
  constructor
  · intro rule hbuilt hstatic
    exact run_eq_judge (hbuilt.whollyTold hstatic)
  · intro rule other hbuilt hbuilt' hstatic hstatic' htold value context context'
    rw [run_eq_judge (hbuilt.whollyTold hstatic), run_eq_judge (hbuilt'.whollyTold hstatic'), htold]

theorem run_determined_by_toJson_of_exchanged_ends :
    let whole : Rule := Profile.standard.ruleOf .integer false none
    let rule : Rule := Profile.standard.ruleOf .rangeLength true (some (.two 3 1))
    let other : Rule := Profile.standard.ruleOf .rangeLength true (some (.two 1 3))
    (whole.Built ∧ rule.Built ∧ other.Built ∧ rule.toJson = other.toJson) ∧
      (Told.ofJson whole.toJson).judge "-15" = [] ∧
        (Told.ofJson whole.toJson).judge "1.5" = ["必须是整数(int)"] ∧
        (rule.run "abcd" {}).value = ["不能为空 字符串长度(1-3)"] ∧
          ∀ value context, rule.run value context = other.run value context := by
  intro whole rule other
  have hwhole : whole.Built :=
    built_iff.mpr ⟨.standard, .integer, ⟨false, ""⟩, pure none, rfl, rfl⟩
  have hrule : rule.Built := built_iff.mpr
    ⟨.standard, .rangeLength, ⟨true, "rangeLength:3,1"⟩, pure (some (.two 3 1)), rfl, rfl⟩
  have hother : other.Built := built_iff.mpr
    ⟨.standard, .rangeLength, ⟨true, "rangeLength:1,3"⟩, pure (some (.two 1 3)), rfl, rfl⟩
  obtain ⟨hjudge, hsame⟩ := run_determined_by_toJson
  have hmessages : ∀ value, (Told.ofJson whole.toJson).judge value = (whole.run value {}).value :=
    fun value => (congrArg Log.Logged.value (hjudge whole hwhole rfl value {})).symm
  refine ⟨⟨hwhole, hrule, hother, rfl⟩, ?_, ?_, by decide, fun value context => ?_⟩
  · rw [hmessages]
    decide
  · rw [hmessages]
    decide
  · exact hsame rule other hrule hother rfl rfl rfl value context context

end Rule

end FormCheck
