import FormCheck.Json.Printer
import FormCheck.Text.Quoted

/-!
Taking typed values out of JSON values, and the errors that say why one cannot be taken.

A record is taken from an object or from an array of its fields in their order. Fields that are
missing keep their defaults, and unknown names are passed over. The fields of an object are read in
the ascending order of their names, so of several bad ones the first in that order is reported.
-/

namespace FormCheck.Json

/-- Why a value of the type that is asked for cannot be taken out of a JSON value. -/
inductive DecodeError where
  | invalidType (found : Json) (expected : String)
  | unknownName (name : String) (expected : List String)
  | tooLong (length : Nat)
  /-- An object in place of a name that does not have exactly one field. -/
  | notSingleField
  | refused (reason : String)

namespace DecodeError

/-- How an error describes the value that was found. -/
def foundText : Json → String
  | .null => "null"
  | .bool b => "boolean `" ++ toString b ++ "`"
  | .int n => "integer `" ++ toString n ++ "`"
  | .float bits => "floating point `" ++ floatText bits ++ "`"
  | .str s => "string " ++ Text.quoted s
  | .arr _ => "sequence"
  | .obj _ => "map"

def marked (name : String) : String := "`" ++ name ++ "`"

/-- How an error lists the names that are known. -/
def expectedNames : List String → String
  | [] => "there are no variants"
  | [a] => "expected " ++ marked a
  | [a, b] => "expected " ++ marked a ++ " or " ++ marked b
  | names => "expected one of " ++ ", ".intercalate (names.map marked)

def message : DecodeError → String
  | .invalidType found expected => "invalid type: " ++ foundText found ++ ", expected " ++ expected
  | .unknownName name expected =>
    "unknown variant " ++ marked name ++ ", " ++ expectedNames expected
  | .tooLong length =>
    "invalid length " ++ toString length ++ ", expected fewer elements in array"
  | .notSingleField => "invalid value: map, expected map with a single key"
  | .refused reason => reason

end DecodeError

/-- Takes a text. Numbers and truth values are not turned into one. -/
def decodeString : Json → Except DecodeError String
  | .str s => .ok s
  | v => .error (.invalidType v "a string")

/-- Takes a truth value, for which neither a number nor a text will do. -/
def decodeBool : Json → Except DecodeError Bool
  | .bool b => .ok b
  | v => .error (.invalidType v "a boolean")

/-- Takes a value from a part of a record. A missing part leaves the default. -/
def decodeOr (unset : α) (decode : Json → Except DecodeError α) : Option Json → Except DecodeError α
  | none => .ok unset
  | some v => decode v

def decodeName (name : α → String) (members : List α) (s : String) : Except DecodeError α :=
  match members.find? (name · == s) with
  | some a => .ok a
  | none => .error (.unknownName s (members.map name))

/-- Takes one of the members of a list by its name, which may stand alone or as the only field of
an object, with nothing for its value. -/
def decodeChoice (name : α → String) (members : List α) : Json → Except DecodeError α
  | .str s => decodeName name members s
  | .obj [(s, value)] => do
    let a ← decodeName name members s
    match value with
    | .null => .ok a
    | v => .error (.invalidType v "unit")
  | .obj _ => .error .notSingleField
  | v => .error (.invalidType v "string or map")

end FormCheck.Json
