import FormCheck.Bounds
import FormCheck.Message
import FormCheck.Pattern.Named
import FormCheck.Procedure

/-!
Rules: what a value of one field has to satisfy, and the form in which a form engine is told about
it.

A rule either tests the value itself, by a pattern or by its length, and carries a message, or it
leaves the decision to a procedure.
-/

namespace FormCheck

open Log (Logged)

/-- The types that a rule can ask for. Every value is of the type of texts. -/
inductive ValueType where
  | string
  | email
deriving DecidableEq, Repr

def ValueType.name : ValueType → String
  | .string => "string"
  | .email => "email"

/-- What a rule tests beyond the presence of a value. -/
inductive Check where
  | none
  | pattern (p : Pattern)
  | bounds (b : Bounds)
  | procedure (p : Procedure)

/-- A rule for the value of one field. A rule with a procedure carries no message, since the
procedure hands in its own. -/
structure Rule where
  kind : Kind
  valueType : ValueType
  required : Bool
  check : Check
  message : Option Message

namespace Rule

def fixed (kind : Kind) (valueType : ValueType) (required : Bool) (check : Check)
    (message : Message) : Rule :=
  { kind, valueType, required, check, message := some message }

def dynamic (kind : Kind) (required : Bool) (procedure : Procedure) : Rule :=
  { kind, valueType := .string, required, check := .procedure procedure, message := none }

def isDynamic (rule : Rule) : Bool :=
  match rule.check with
  | .procedure _ => true
  | _ => false

def pattern? (rule : Rule) : Option Pattern :=
  match rule.check with
  | .pattern p => some p
  | _ => Option.none

def bounds? (rule : Rule) : Option Bounds :=
  match rule.check with
  | .bounds b => some b
  | _ => Option.none

/-- The text of the message that a rule carries, which is empty if it carries none. -/
def messageText (rule : Rule) : String :=
  (rule.message.map Message.render).getD ""

/-- Whether a rule's own test passes a value that is not empty. The value type counts only where
the rule tests nothing else. -/
def passes (rule : Rule) (value : String) : Bool :=
  match rule.check with
  | .none => rule.valueType != .email || Pattern.Name.email.pattern.matchesText value
  | .pattern p => p.matchesText value
  | .bounds b => b.contains value.length
  | .procedure _ => true

/-- What a rule's own test says about a value. An empty value is judged by presence alone. -/
def testFixed (rule : Rule) (value : String) : List String :=
  if value = "" then (if rule.required then [rule.messageText] else [])
  else if rule.passes value then []
  else [rule.messageText]

theorem testFixed_eq_nil_or (rule : Rule) (value : String) :
    rule.testFixed value = [] ∨ rule.testFixed value = [rule.messageText] := by
  unfold testFixed
  by_cases hvalue : value = ""
  · cases rule.required <;> simp [hvalue]
  · cases rule.passes value <;> simp [hvalue]

/-- Judges a value. There are no messages about a value that satisfies the rule. -/
def run (rule : Rule) (value : String) (context : Context) : Logged (List String) :=
  match rule.check with
  | .procedure p => p.run ⟨rule.kind, rule.required, value, context⟩
  | _ => pure (rule.testFixed value)

/-- The fields by which an engine is told what a rule tests. Of a procedure it learns only that
there is one. -/
def checkFields (rule : Rule) : List (String × Json) :=
  match rule.check with
  | .none => []
  | .pattern p => [("pattern", .str p.source)]
  | .bounds b =>
    (b.min.map fun n => ("min", Json.ofNat n)).toList ++
      (b.max.map fun n => ("max", Json.ofNat n)).toList
  | .procedure _ => [("validator", .bool true)]

/-- The object by which a form engine is told about a rule. A rule of the kind `required` has no
type, so that the engine does not test the value for one. -/
def toJson (rule : Rule) : Json :=
  Json.ofFields <|
    (if rule.kind = .required then [] else [("type", .str rule.valueType.name)]) ++
      ("required", .bool rule.required) :: rule.checkFields ++
      (rule.message.map fun m => ("message", Json.str m.render)).toList

end Rule

end FormCheck
