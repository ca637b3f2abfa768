namespace FormCheck.Settings

/-- Variables with their texts. Of two with one name the later counts. -/
abbrev Variables := List (String × String)

namespace Variables

/-- The last text of a name. -/
def get? (vars : Variables) (name : String) : Option String :=
  (vars.reverse.find? (·.1 == name)).map (·.2)

/-- What follows a name and an equals sign at the start of a variable written `NAME=text`. A name
that holds an equals sign reaches into the text of a variable. -/
def textAfter? (vars : Variables) (name : String) : Option String :=
  let start := (name ++ "=").toList
  let entries := vars.reverse.map fun v => (v.1 ++ "=" ++ v.2).toList
  (entries.find? start.isPrefixOf).map fun entry => String.ofList (entry.drop start.length)

/-- Variables with one more. It takes the place of one with its name, and comes last otherwise. -/
def set (vars : Variables) (name value : String) : Variables :=
  if vars.any (·.1 == name) then
    vars.map fun v => if v.1 == name then (name, value) else v
  else vars ++ [(name, value)]

/-- The variables after all of the pairs were set, in order. -/
def ofPairs (pairs : List (String × String)) : Variables :=
  pairs.foldl (fun vars pair => vars.set pair.1 pair.2) []

theorem get?_cons (vars : Variables) (pair : String × String) (key : String) :
    get? (pair :: vars) key = (get? vars key).or (if pair.1 = key then some pair.2 else none) := by
  simp only [get?, List.reverse_cons, List.find?_append, Option.map_or]
  by_cases h : pair.1 = key <;> simp [h]

theorem get?_concat (vars : Variables) (name value key : String) :
    get? (vars ++ [(name, value)]) key = if key = name then some value else get? vars key := by
  simp only [get?, List.reverse_append]
  by_cases h : name = key <;> grind

theorem isSome_get? (vars : Variables) (name : String) :
    (get? vars name).isSome = vars.any (·.1 == name) := by
  rw [Bool.eq_iff_iff]
  simp [get?, List.find?_isSome]

theorem get?_replace (vars : Variables) (name value key : String) :
    get? (vars.map fun v => if v.1 == name then (name, value) else v) key =
      if key = name then (get? vars name).map fun _ => value else get? vars key := by
  induction vars with
  | nil => simp [get?]
  | cons pair vars ih =>
    simp only [List.map_cons, get?_cons, ih]
    by_cases hk : key = name <;> by_cases hp : pair.1 = name <;> cases get? vars name <;> grind

theorem get?_set (vars : Variables) (name value key : String) :
    (vars.set name value).get? key = if key = name then some value else vars.get? key := by
  unfold set
  split
  · rename_i h
    rw [← isSome_get?] at h
    obtain ⟨old, h⟩ := Option.isSome_iff_exists.1 h
    rw [get?_replace, h]
    rfl
  · exact get?_concat vars name value key

end Variables

end FormCheck.Settings
