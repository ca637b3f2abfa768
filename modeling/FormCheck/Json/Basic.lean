namespace FormCheck

/-- A JSON value. A number is a whole number, or a binary floating-point number that is kept as its
64 bits. -/
inductive Json where
  | null
  | bool (b : Bool)
  | int (n : Int)
  | float (bits : UInt64)
  | str (s : String)
  | arr (items : List Json)
  | obj (fields : List (String × Json))
deriving Inhabited

namespace Json

/-- The fields of an object, in ascending order of their names and never two of one name. -/
abbrev Fields := List (String × Json)

/-- Puts a field in its place, where it replaces one of the same name. -/
def Fields.insert (name : String) (value : Json) : Fields → Fields
  | [] => [(name, value)]
  | (n, v) :: rest =>
    if name = n then (name, value) :: rest
    else if name < n then (name, value) :: (n, v) :: rest
    else (n, v) :: Fields.insert name value rest

def Fields.get? (fields : Fields) (name : String) : Option Json :=
  (fields.find? (·.1 == name)).map (·.2)

theorem Fields.get?_insert (fields : Fields) (name : String) (value : Json) (key : String) :
    (fields.insert name value).get? key = if key = name then some value else fields.get? key := by
  induction fields with
  | nil => by_cases h : name = key <;> grind [insert, get?]
  | cons field rest ih =>
    obtain ⟨n, v⟩ := field
    simp only [get?] at ih ⊢
    by_cases h : name = n <;> by_cases hn : name < n <;> by_cases hk : n = key <;> grind [insert]

/-- The fields of pairs, of which the later counts where two have one name. -/
def Fields.ofList (pairs : List (String × Json)) : Fields :=
  pairs.foldl (fun fields pair => fields.insert pair.1 pair.2) []

def ofFields (pairs : List (String × Json)) : Json :=
  .obj (Fields.ofList pairs)

/-- The text of a string. No other value has one. -/
def text? : Json → Option String
  | .str s => some s
  | _ => none

def ofNat (n : Nat) : Json :=
  .int n

end Json

end FormCheck
