import FormCheck.Proofs.FieldIndependence
import FormCheck.Proofs.JsonFields

namespace FormCheck

/-- The failures that a rule gives for a value that was entered under a name. -/
def Rule.failuresFor (rule : Rule) (name value : String) (context : Context) : List Failure :=
  (rule.run value context).value.map fun message =>
    { field := name, message, constraint := rule.kind.name, value := some value }

namespace Form

variable {form : Form} {name : String}

/-- The fields with one name, in the order in which they were added. -/
def named (form : Form) (name : String) : List Field :=
  form.fields.filter (·.name == name)

/-- The rules that validation tries on the value of a name, in order. -/
def enforced (form : Form) (name : String) : List Rule :=
  (form.named name).flatMap Field.rules

theorem ofField_validate_eq_enforced (form : Form) (entered : Entered) (name : String) :
    Failure.ofField (form.validate entered).value name =
      (form.enforced name).flatMap fun rule =>
        rule.failuresFor name (entered.valueOf name) { source := entered.source } := by
  have hfields : Failure.ofField (form.validate entered).value name =
      (form.named name).flatMap fun field => (failuresOf entered field).value :=
    Failure.ofField_flatMap (fun field _ failure hfailure =>
      Field.field_eq_of_mem_validate hfailure) name
  rw [hfields, enforced, List.flatMap_assoc]
  apply flatMap_named_congr
  intro field hname
  rw [failuresOf, Field.value_validate, hname]
  rfl

theorem exists_named_eq_concat (hname : name ∈ form.fields.map Field.name) :
    ∃ earlier last, form.named name = earlier ++ [last] := by
  obtain ⟨field, hfield, rfl⟩ := List.mem_map.mp hname
  have hne : form.named field.name ≠ [] :=
    List.ne_nil_of_mem (List.mem_filter.mpr ⟨hfield, by simp⟩)
  exact ⟨_, _, (List.dropLast_concat_getLast hne).symm⟩

theorem field?_toJson (form : Form) (name : String) :
    form.toJson.field? name = (form.named name).getLast?.map Field.toJson := by
  rw [toJson, Json.field?_ofFields, List.filter_map, List.getLast?_map, Option.map_map]
  rfl

theorem toJson_last_eq_iff {earlier : List Field} {last : Field} :
    last.toJson = .arr ((earlier.flatMap Field.rules ++ last.rules).map Rule.toJson) ↔
      ∀ field ∈ earlier, field.rules = [] := by
  rw [← List.flatMap_eq_nil_iff]
  constructor
  · intro h
    have hlength := congrArg List.length (Json.arr.inj h)
    simp only [List.length_map, List.length_append] at hlength
    exact List.length_eq_zero_iff.mp (by omega)
  · intro h
    rw [h]
    rfl

/-- Of a name that occurs in a form an engine is told the rules of the last field, in order, while
validation enforces those of every field. The two agree exactly when no earlier field of that name
has a rule, so that a form without repeated names is told as it is enforced. -/
theorem told_as_enforced_iff (form : Form) (name : String)
    (hname : name ∈ form.fields.map Field.name) :
    ∃ earlier last, form.named name = earlier ++ [last] ∧
      form.toJson.field? name = some (.arr (last.rules.map Rule.toJson)) ∧
      form.enforced name = earlier.flatMap Field.rules ++ last.rules ∧
      (∀ entered, Failure.ofField (form.validate entered).value name =
        (form.enforced name).flatMap fun rule =>
          rule.failuresFor name (entered.valueOf name) { source := entered.source }) ∧
      (form.toJson.field? name = some (.arr ((form.enforced name).map Rule.toJson)) ↔
        ∀ field ∈ earlier, field.rules = []) := by
  obtain ⟨earlier, last, hnamed⟩ := exists_named_eq_concat hname
  have htold : form.toJson.field? name = some last.toJson := by
    rw [field?_toJson, hnamed, List.getLast?_concat, Option.map_some]
  have henforced : form.enforced name = earlier.flatMap Field.rules ++ last.rules := by
    rw [enforced, hnamed, List.flatMap_append, List.flatMap_singleton]
  refine ⟨earlier, last, hnamed, htold, henforced,
    fun entered => ofField_validate_eq_enforced form entered name, ?_⟩
  rw [htold, henforced, Option.some.injEq]
  exact toJson_last_eq_iff

theorem told_as_enforced_repeated_name :
    let whole : Rule := Profile.standard.ruleOf .integer false none
    let short : Rule := Profile.standard.ruleOf .maxLength false (some (.one 3))
    let form : Form := (Form.add {} ⟨"age", [whole]⟩).add ⟨"age", [short]⟩
    "age" ∈ form.fields.map Field.name ∧ form.enforced "age" = [whole, short] ∧
      form.toJson.field? "age" = some (.arr [short.toJson]) := by
  intro whole short form
  have hname : "age" ∈ form.fields.map Field.name := by decide
  obtain ⟨earlier, last, hnamed, htold, henforced, -⟩ := told_as_enforced_iff form "age" hname
  have hfields : [⟨"age", [whole]⟩] ++ [⟨"age", [short]⟩] = earlier ++ [last] := hnamed
  obtain ⟨rfl, hlast⟩ := List.append_inj' hfields rfl
  obtain rfl := List.singleton_inj.mp hlast
  exact ⟨hname, henforced, htold⟩

theorem told_ne_enforced_of_repeated_name :
    let whole : Rule := Profile.standard.ruleOf .integer false none
    let short : Rule := Profile.standard.ruleOf .maxLength false (some (.one 3))
    let form : Form := (Form.add {} ⟨"age", [whole]⟩).add ⟨"age", [short]⟩
    (∀ rule ∈ form.enforced "age", rule.Built) ∧
      (Failure.ofField (form.validate [("age", "12.34")]).value "age").map Failure.constraint =
        ["integer", "maxLength"] ∧
      form.toJson.field? "age" ≠ some (.arr ((form.enforced "age").map Rule.toJson)) := by
  intro whole short form
  refine ⟨?_, by decide, ?_⟩
  · change ∀ rule ∈ [whole, short], rule.Built
    simp only [List.forall_mem_singleton, List.forall_mem_cons, Rule.built_iff]
    refine ⟨?_, ?_⟩
    · exact ⟨.standard, .integer, ⟨false, ""⟩, pure none, rfl, rfl⟩
    · exact ⟨.standard, .maxLength, ⟨false, "maxLength:3"⟩, pure (some (.one 3)), rfl, rfl⟩
  · intro h
    rw [field?_toJson] at h
    have hlength := congrArg List.length (Json.arr.inj (Option.some.inj h))
    exact absurd hlength (by decide)

end Form

end FormCheck
