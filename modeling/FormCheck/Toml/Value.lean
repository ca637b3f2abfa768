import FormCheck.Json.Numeral
import FormCheck.Toml.Moment

/-!
TOML values, and the JSON values they are passed on as.

Numbers are kept as written. One that is too large is refused where it is passed on, and not where
it is read, because a table that stands for a date or a time drops its other entries.
-/

namespace FormCheck.Toml

/-- A TOML value, with its numbers as they are written. -/
inductive Value where
  | string (s : String)
  | boolean (b : Bool)
  | integer (n : Int)
  | decimal (negative : Bool) (digits : Nat) (exponent : Int)
  /-- An infinity, or what is no number. -/
  | nonNumber
  /-- A date or a time, in the spelling in which it is passed on. -/
  | moment (text : List Char)
  | array (items : List Value)
  | table (entries : List (String × Value))

/-- The binary floating-point number nearest to a decimal one, if that is not too large. -/
def nearest? (digits : Nat) (exponent : Int) : Option Float :=
  let places : Int := (Nat.toDigits 10 digits).length + exponent
  if digits = 0 ∨ places < -330 then some 0
  else if 310 < places then none
  else
    let f := Float.ofScientific digits (exponent < 0) exponent.natAbs
    if f.isInf then none else some f

/-- The name of the only field of an object that stands for a date or a time. -/
def momentField : String := "$__toml_private_datetime"

/-- The smallest integer that is passed on. -/
def minInteger : Int := -9223372036854775808

/-- The largest integer that is passed on. -/
def maxInteger : Int := 9223372036854775807

/-- The object by which a date or a time is passed on. -/
def momentJson (text : List Char) : Json :=
  .obj [(momentField, .str (String.ofList text))]

namespace Value

/-- The entry under the name that stands for a date or a time, when no name of the table is smaller
than it. -/
def momentEntry? (entries : List (String × Value)) : Option Value :=
  if entries.all fun e => momentField ≤ e.1 then entries.lookup momentField else none

/-- The value as it is passed on. A table whose smallest name is the one for dates and times stands
for a moment, and has no other reading. -/
def toJson? : Value → Option Json
  | .string s => some (.str s)
  | .boolean b => some (.bool b)
  | .integer n => if minInteger ≤ n ∧ n ≤ maxInteger then some (.int n) else none
  | .decimal negative digits exponent => (nearest? digits exponent).map (Json.ofFloat negative)
  | .nonNumber => some .null
  | .moment text => some (momentJson text)
  | .array items => (itemsJson? items).map .arr
  | .table entries =>
    match momentEntry? entries with
    | some (.string s) => (moment? s.toList).map momentJson
    | some _ => none
    | none => (entriesJson? entries).map Json.ofFields
where
  itemsJson? : List Value → Option (List Json)
    | [] => some []
    | v :: rest => do
      let item ← toJson? v
      let items ← itemsJson? rest
      some (item :: items)
  entriesJson? : List (String × Value) → Option (List (String × Json))
    | [] => some []
    | (name, v) :: rest => do
      let field ← toJson? v
      let fields ← entriesJson? rest
      some ((name, field) :: fields)

end Value

/-- The object of the table of a whole document, whose names have no meaning of their own. -/
def documentJson? (entries : List (String × Value)) : Option Json :=
  (Value.toJson?.entriesJson? entries).map Json.ofFields

end FormCheck.Toml
