import FormCheck.Json.Basic
import Mathlib.Data.List.Basic
import Mathlib.Data.List.Induction

namespace FormCheck.Json

/-- What stands under a name in an object. A value that is no object has no fields. -/
def field? (json : Json) (name : String) : Option Json :=
  match json with
  | .obj fields => Fields.get? fields name
  | _ => none

/-- An object from which the field of one name is taken out. -/
def without (json : Json) (name : String) : Json :=
  match json with
  | .obj fields => .obj (fields.filter (·.1 != name))
  | _ => json

namespace Fields

theorem ofList_concat (pairs : List (String × Json)) (pair : String × Json) :
    ofList (pairs ++ [pair]) = (ofList pairs).insert pair.1 pair.2 :=
  List.foldl_concat _ _ pair pairs

theorem get?_ofList (pairs : List (String × Json)) (name : String) :
    (ofList pairs).get? name = (pairs.filter (·.1 == name)).getLast?.map (·.2) := by
  induction pairs using List.reverseRecOn with
  | nil => rfl
  | append_singleton pairs pair ih =>
      rw [ofList_concat, get?_insert, List.filter_append]
      by_cases hname : pair.1 = name
      · simp [hname]
      · rw [if_neg fun h => hname h.symm, ih]
        simp [hname]

theorem filter_insert (fields : Fields) (name : String) (value : Json) :
    (fields.insert name value).filter (·.1 != name) = fields.filter (·.1 != name) := by
  induction fields with
  | nil => simp [insert]
  | cons field fields ih =>
      obtain ⟨other, kept⟩ := field
      unfold insert
      split
      · rename_i heq
        simp [heq]
      · split
        · simp
        · rw [List.filter_cons, List.filter_cons, ih]

end Fields

theorem field?_ofFields (pairs : List (String × Json)) (name : String) :
    (ofFields pairs).field? name = (pairs.filter (·.1 == name)).getLast?.map (·.2) :=
  Fields.get?_ofList pairs name

theorem field?_ofFields_append (pairs pairs' : List (String × Json)) (name : String) :
    (ofFields (pairs ++ pairs')).field? name =
      ((ofFields pairs').field? name).or ((ofFields pairs).field? name) := by
  rw [field?_ofFields, field?_ofFields, field?_ofFields, List.filter_append, List.getLast?_append,
    Option.map_or]

theorem field?_ofFields_toList (value? : Option α) (key : String) (f : α → Json) (name : String) :
    (ofFields (value?.map fun value => (key, f value)).toList).field? name =
      if key = name then value?.map f else none := by
  rw [field?_ofFields]
  cases value? with
  | none => simp
  | some value => by_cases hkey : key = name <;> simp [hkey]

theorem field?_ofFields_singleton (key : String) (value : Json) (name : String) :
    (ofFields [(key, value)]).field? name = if key = name then some value else none :=
  field?_ofFields_toList (some value) key id name

theorem without_ofFields_concat (pairs : List (String × Json)) (name : String)
    (value value' : Json) :
    (ofFields (pairs ++ [(name, value)])).without name =
      (ofFields (pairs ++ [(name, value')])).without name := by
  have hrest : ∀ value, (ofFields (pairs ++ [(name, value)])).without name =
      .obj ((Fields.ofList pairs).filter (·.1 != name)) := by
    intro value
    change Json.obj _ = _
    rw [Fields.ofList_concat, Fields.filter_insert]
  rw [hrest, hrest]

end FormCheck.Json
