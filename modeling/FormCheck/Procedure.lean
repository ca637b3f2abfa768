import FormCheck.Json.Basic
import FormCheck.Kind
import FormCheck.Log.Logged

/-!
Procedures: the bodies of rules that decide for themselves.

A procedure hands in reports, each a list of messages. Only the first report counts. A procedure is
supposed to hand in exactly one, and a warning is logged when it hands in more or none.
-/

namespace FormCheck

open Log (Logged)

/-- What a procedure may look at beside the value: the whole form and the options of whoever
validates it. -/
structure Context where
  source : Json.Fields := []
  options : Json.Fields := []

/-- What a procedure is called with: the kind and the flag of its rule, the value, and the
context. -/
structure Call where
  kind : Kind
  required : Bool
  value : String
  context : Context

/-- The body of a rule: the reports that it hands in when called, in order. -/
structure Procedure where
  reports : Call → Logged (List (List String))

namespace Procedure

/-- The part of the program that warnings about reports are logged for. -/
def target : String := "formrule_validation::descriptor"

/-- The warning about reports after the first. -/
def extraMessage (kind : Kind) (extra : Nat) : String :=
  "`" ++ kind.name ++ "` procedure invoked its callback " ++ toString extra ++
    " extra time(s); later reports ignored"

/-- The warning about a procedure without any report. -/
def missingMessage (kind : Kind) : String :=
  "`" ++ kind.name ++ "` procedure returned without invoking its callback"

/-- The first report, with a warning unless it is the only one. Without any report the value
counts as valid. -/
def firstReport (kind : Kind) : List (List String) → Logged (List String)
  | [] => do
    Logged.log .warn target (missingMessage kind)
    pure []
  | [messages] => pure messages
  | messages :: extra => do
    Logged.log .warn target (extraMessage kind extra.length)
    pure messages

/-- Calls a procedure and takes the first of its reports. -/
def run (p : Procedure) (call : Call) : Logged (List String) :=
  p.reports call >>= firstReport call.kind

/-- The procedure that runs a test on the value and hands in one report: the message where the value
fails, and no message where it passes. -/
def ofTest (test : String → Logged Bool) (message : String) : Procedure where
  reports call := do
    let passed ← test call.value
    pure [if passed then [] else [message]]

end Procedure

end FormCheck
