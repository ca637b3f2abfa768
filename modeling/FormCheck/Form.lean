import FormCheck.Failure
import FormCheck.Rule

namespace FormCheck

open Log (Logged)

/-- A field of a form with the rules for its value, in the order in which they are tried. -/
structure Field where
  name : String
  rules : List Rule

namespace Field

/-- The failures that one rule of a field gives for a value: one for each of its messages. -/
def failuresOf (field : Field) (value : String) (context : Context) (rule : Rule) :
    Logged (List Failure) := do
  let messages ← rule.run value context
  pure (messages.map fun message =>
    { field := field.name, message, constraint := rule.kind.name, value := some value })

/-- The failures that all rules of a field give. A rule that fails does not keep the others from
being tried. -/
def validate (field : Field) (value : String) (context : Context) : Logged (List Failure) :=
  Logged.gather (field.failuresOf value context) field.rules

/-- What a form engine is told about a field: its rules, in order. -/
def toJson (field : Field) : Json :=
  .arr (field.rules.map Rule.toJson)

end Field

/-- What was entered into a form: values by the names of the fields. No name occurs twice. -/
abbrev Entered := List (String × String)

namespace Entered

def get? (entered : Entered) (name : String) : Option String :=
  (entered.find? (·.1 == name)).map (·.2)

def remove (entered : Entered) (name : String) : Entered :=
  entered.filter (·.1 != name)

/-- Enters a value, in place of the one that was entered under the same name before. -/
def set (entered : Entered) (name value : String) : Entered :=
  entered.remove name ++ [(name, value)]

theorem get?_remove (entered : Entered) (name key : String) :
    (entered.remove name).get? key = if key = name then none else entered.get? key := by
  induction entered with
  | nil => simp [remove, get?]
  | cons field rest ih =>
    simp only [remove, get?] at ih ⊢
    by_cases h : field.1 = name <;> by_cases hk : field.1 = key <;> grind

theorem get?_set (entered : Entered) (name value key : String) :
    (entered.set name value).get? key = if key = name then some value else entered.get? key := by
  have h := entered.get?_remove name key
  simp only [set, get?, List.find?_append, Option.map_or] at h ⊢
  rw [h]
  by_cases hk : name = key <;> grind

/-- What was entered as one JSON object, as procedures get to see it. -/
def source (entered : Entered) : Json.Fields :=
  Json.Fields.ofList (entered.map fun (name, value) => (name, .str value))

end Entered

/-- A form: its fields in the order in which they were added. Several of them may have one name. -/
structure Form where
  fields : List Field := []

namespace Form

def add (form : Form) (field : Field) : Form :=
  ⟨form.fields ++ [field]⟩

def logTarget : String := "formrule_validation::rules"

/-- What is logged about a validation: the number of fields, and that of the failures if there are
any. -/
def validated (form : Form) (failures : List Failure) : Logged Unit :=
  if failures.isEmpty then
    Logged.log .trace logTarget ("validated " ++ toString form.fields.length ++ " field(s)")
  else
    Logged.log .debug logTarget
      (toString failures.length ++ " error(s) across " ++ toString form.fields.length ++
        " field(s)")

/-- The failures of a field of a form. A field without a value is judged like an empty one, and
every rule may look at the whole form. -/
def failuresOf (entered : Entered) (field : Field) : Logged (List Failure) :=
  field.validate ((entered.get? field.name).getD "") { source := entered.source }

/-- The failures of all fields, in order. There are none where the form is valid. -/
def validate (form : Form) (entered : Entered) : Logged (List Failure) := do
  let failures ← Logged.gather (failuresOf entered) form.fields
  form.validated failures
  pure failures

/-- The object by which a form engine is told about the form. Of several fields with one name the
last counts. -/
def toJson (form : Form) : Json :=
  Json.ofFields (form.fields.map fun field => (field.name, field.toJson))

end Form

end FormCheck
