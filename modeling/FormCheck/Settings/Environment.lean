import FormCheck.Settings.Basic

namespace FormCheck.Settings

/-- What the names of the program's variables start with, the low line after it left out. -/
def variableStart : String := "FORMRULE"

/-- What a name goes on with behind a start and a low line, if it begins so. -/
def dropVariableStart? (start name : String) : Option String :=
  (Text.dropStart? (start ++ "_").toList name.toList).map String.ofList

/-- The variables of an environment whose names have a given start, without that start and in small
letters. A name that is nothing but the start is left out. -/
def Variables.withStart (start : String) (environment : Variables) : Variables :=
  environment.filterMap fun (name, value) =>
    match dropVariableStart? start name with
    | some rest => if rest = "" then none else some (Text.lowercase rest, value)
    | none => none

/-- Loads settings from the variables of an environment, with the standard ones below. -/
def fromEnvironment (environment : Variables) : Except Invalid Settings :=
  standard.overlay (environment.withStart variableStart)

/-- The key of a setting that an entry of an environment file sets: the start of the program's
variables is dropped if it is there. -/
def entryKey (name : String) : String :=
  Text.lowercase ((dropVariableStart? variableStart name).getD name)

/-- The entries of an environment file as an object. Of several for one setting the last counts. -/
def entriesJson (entries : List (String × String)) : Json :=
  Json.ofFields (entries.map fun (name, value) => (entryKey name, .str value))

end FormCheck.Settings
