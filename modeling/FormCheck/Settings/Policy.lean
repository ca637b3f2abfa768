import FormCheck.Text.Blank
import FormCheck.Text.Lowercase

namespace FormCheck

/-- What becomes of a rule whose numbers cannot be read. -/
inductive MalformedRules where
  /-- Go on without the limits, and log a warning. -/
  | lenient
  | strict
deriving DecidableEq, Repr

/-- What dates are checked against. -/
inductive DateCheck where
  /-- Month and day are each in their range. -/
  | range
  /-- The calendar has the date. -/
  | calendar
deriving DecidableEq, Repr

namespace Settings

/-- What is wrong with the text of a setting. -/
inductive Defect where
  | empty
  | notALocaleTag (tag : String)
  | neither (first second got : String)
deriving DecidableEq, Repr

/-- A setting that is refused, by its key, and why. -/
structure Invalid where
  key : String
  defect : Defect
deriving DecidableEq, Repr

/-- What an error says about a defect, behind the key of the setting. -/
def Defect.reason : Defect → String
  | .empty => "cannot be empty"
  | .notALocaleTag tag => "`" ++ tag ++ "` is not a locale tag"
  | .neither first second got =>
    "expected `" ++ first ++ "` or `" ++ second ++ "`, got `" ++ got ++ "`"

def Invalid.message (e : Invalid) : String :=
  "Invalid setting `" ++ e.key ++ "`: " ++ e.defect.reason

/-- A word of a setting in the spelling that counts: no blanks at its ends, and small letters. -/
def normalWord (s : String) : String :=
  Text.lowercase (Text.trim s)

/-- Reads one of two words. An error shows the text in the spelling that was compared. -/
def readChoice (key : String) (first second : String × α) (s : String) : Except Invalid α :=
  let word := normalWord s
  if word = first.1 then .ok first.2
  else if word = second.1 then .ok second.2
  else .error ⟨key, .neither first.1 second.1 word⟩

end Settings

namespace MalformedRules

def key : String := "malformed_rules"

def name : MalformedRules → String
  | .lenient => "lenient"
  | .strict => "strict"

def read (s : String) : Except Settings.Invalid MalformedRules :=
  Settings.readChoice key ("lenient", .lenient) ("strict", .strict) s

end MalformedRules

namespace DateCheck

def key : String := "date_check"

def name : DateCheck → String
  | .range => "range"
  | .calendar => "calendar"

def read (s : String) : Except Settings.Invalid DateCheck :=
  Settings.readChoice key ("range", .range) ("calendar", .calendar) s

end DateCheck

end FormCheck
