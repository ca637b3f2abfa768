import FormCheck.Json.Basic

namespace FormCheck

/-- What is reported about one field of a form. -/
structure Failure where
  field : String
  message : String
  /-- The kind of the rule that gave the message. -/
  constraint : String := "custom"
  value : Option String := none
deriving DecidableEq, Repr

namespace Failure

/-- A failure on one line, without the kind and the value. -/
def text (f : Failure) : String :=
  f.field ++ ": " ++ f.message

/-- The object of a failure. Where no value is known it is null, and not left out. -/
def toJson (f : Failure) : Json :=
  Json.ofFields
    [("field", .str f.field), ("message", .str f.message), ("constraint", .str f.constraint),
      ("value", (f.value.map Json.str).getD .null)]

def ofField (failures : List Failure) (field : String) : List Failure :=
  failures.filter (·.field == field)

def report (failures : List Failure) : String :=
  String.join (failures.map fun f => f.text ++ "\n")

/-- All failures for another program, in order. -/
def reportJson (failures : List Failure) : Json :=
  Json.ofFields [("errors", .arr (failures.map toJson))]

end Failure

end FormCheck
