import FormCheck.Json.Decode

namespace FormCheck

/-- What a rule asks of a value. Four kinds take numbers, and the others are complete by their
name. -/
inductive Kind where
  | required
  | email
  | float
  | url
  | integer
  | rangeLength
  | maxLength
  | minLength
  | rangeChar
  | date
  | english
  | englishAndNumber
  | chinese
  | idCards
deriving DecidableEq, Repr

namespace Kind

/-- All kinds, in the order in which errors list them. -/
def all : List Kind :=
  [.required, .email, .float, .url, .integer, .rangeLength, .maxLength, .minLength, .rangeChar,
    .date, .english, .englishAndNumber, .chinese, .idCards]

theorem mem_all (kind : Kind) : kind ∈ all := by
  cases kind <;> decide

/-- The name of a kind in rules texts and in JSON. -/
def name : Kind → String
  | .required => "required"
  | .email => "email"
  | .float => "float"
  | .url => "url"
  | .integer => "integer"
  | .rangeLength => "rangeLength"
  | .maxLength => "maxLength"
  | .minLength => "minLength"
  | .rangeChar => "rangeChar"
  | .date => "date"
  | .english => "english"
  | .englishAndNumber => "englishAndNumber"
  | .chinese => "chinese"
  | .idCards => "idCards"

def ofName? (name : String) : Option Kind :=
  all.find? (·.name == name)

theorem ofName?_name (kind : Kind) : ofName? kind.name = some kind := by
  cases kind <;> decide

theorem name_injective : Function.Injective name := by
  intro kind other hname
  have hkind := ofName?_name kind
  rw [hname, ofName?_name] at hkind
  exact (Option.some.inj hkind).symm

/-- A name that no kind has. -/
structure Unknown where
  name : String
deriving DecidableEq, Repr

def Unknown.message (e : Unknown) : String :=
  "unknown rule kind `" ++ e.name ++ "`"

def named (name : String) : Except Unknown Kind :=
  match ofName? name with
  | some kind => .ok kind
  | none => .error ⟨name⟩

/-- How many numbers a kind takes. -/
def arity : Kind → Nat
  | .rangeLength | .rangeChar => 2
  | .maxLength | .minLength => 1
  | _ => 0

/-- Takes a kind from a JSON value by its name. -/
def decode : Json → Except Json.DecodeError Kind :=
  Json.decodeChoice name all

end Kind

end FormCheck
