import FormCheck.Json.Decode
import FormCheck.Settings.LocaleTag
import FormCheck.Settings.Variables

namespace FormCheck

/-- The settings of the program: the locale of messages and the two choices. However they are
loaded, the same spellings are read, and the locale is tested at the end. -/
structure Settings where
  locale : String
  malformedRules : MalformedRules
  dateCheck : DateCheck
deriving DecidableEq, Repr

namespace Settings

def standard : Settings :=
  { locale := "zh-CN", malformedRules := .lenient, dateCheck := .range }

instance : Inhabited Settings := ⟨standard⟩

/-- Tests the locale. A blank one is refused by another error than a text that is no tag. -/
def validate (s : Settings) : Except Invalid Unit := do
  checkNotEmpty "locale" s.locale
  checkLocaleTag "locale" s.locale

/-- Why settings could not be loaded. -/
inductive LoadError where
  | load (reason : String)
  | parse (format : String)
  | invalid (e : Invalid)
  /-- A value of another type stands for a setting, or for all of them. -/
  | decode (e : Json.DecodeError)

def LoadError.message : LoadError → String
  | .load reason => "Failed to load settings: " ++ reason
  | .parse format => "Failed to parse settings: " ++ format ++ " parse error"
  | .invalid e => e.message
  | .decode e => "Deserialization error: " ++ e.message

/-- Takes one of the two choices from a JSON text, which is read as the text of a variable would
be. -/
def decodeChoiceText (read : String → Except Invalid α) (v : Json) :
    Except Json.DecodeError α := do
  let s ← Json.decodeString v
  match read s with
  | .ok a => .ok a
  | .error e => .error (.refused e.message)

/-- Takes settings from a JSON value without testing the locale. -/
def decode : Json → Except Json.DecodeError Settings
  | .obj fields => do
    let dateCheck ← Json.decodeOr standard.dateCheck (decodeChoiceText DateCheck.read)
      (Json.Fields.get? fields DateCheck.key)
    let locale ← Json.decodeOr standard.locale Json.decodeString
      (Json.Fields.get? fields "locale")
    let malformedRules ← Json.decodeOr standard.malformedRules
      (decodeChoiceText MalformedRules.read) (Json.Fields.get? fields MalformedRules.key)
    pure { locale, malformedRules, dateCheck }
  | .arr items => do
    let locale ← Json.decodeOr standard.locale Json.decodeString items[0]?
    let malformedRules ← Json.decodeOr standard.malformedRules
      (decodeChoiceText MalformedRules.read) items[1]?
    let dateCheck ← Json.decodeOr standard.dateCheck (decodeChoiceText DateCheck.read) items[2]?
    if 3 < items.length then .error (.tooLong items.length)
    else pure { locale, malformedRules, dateCheck }
  | v => .error (.invalidType v "struct Settings")

def fromJson (v : Json) : Except LoadError Settings := do
  let s ← (decode v).mapError .decode
  s.validate.mapError .invalid
  pure s

def toJson (s : Settings) : Json :=
  Json.ofFields
    [("locale", .str s.locale), (MalformedRules.key, .str s.malformedRules.name),
      (DateCheck.key, .str s.dateCheck.name)]

/-- Reads a text that may be missing. Without one the value that holds unset stays. -/
def readOr (unset : α) (read : String → Except Invalid α) : Option String → Except Invalid α
  | none => .ok unset
  | some s => read s

/-- Settings with variables laid over them. What no variable sets stays, and what comes out is
tested. -/
def overlay (s : Settings) (vars : Variables) : Except Invalid Settings := do
  let locale := (vars.get? "locale").getD s.locale
  let malformedRules ← readOr s.malformedRules MalformedRules.read (vars.get? MalformedRules.key)
  let dateCheck ← readOr s.dateCheck DateCheck.read (vars.get? DateCheck.key)
  let result : Settings := { locale, malformedRules, dateCheck }
  result.validate
  pure result

/-- The settings as the lines of the log show them. -/
def logText (s : Settings) : String :=
  let malformed := match s.malformedRules with
    | .lenient => "Lenient"
    | .strict => "Strict"
  let dates := match s.dateCheck with
    | .range => "Range"
    | .calendar => "Calendar"
  "Settings \x7b locale: " ++ Text.quoted s.locale ++ ", malformed_rules: " ++ malformed ++
    ", date_check: " ++ dates ++ " \x7d"

end Settings

end FormCheck
