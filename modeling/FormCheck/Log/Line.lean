import FormCheck.Json.Printer
import FormCheck.Log.Config

namespace FormCheck.Log

/-- Something to be logged: how severe it is, which part of the program says it, and what it
says. -/
structure Entry where
  level : Level
  target : String
  message : String
deriving DecidableEq, Repr

/-- The time of a line, in the spellings that the forms of lines ask for. -/
structure Moment where
  /-- Date and local time to the millisecond. -/
  full : String
  /-- The local time of day. -/
  short : String
  /-- The universal time for JSON lines. -/
  universal : String

/-- A part of a line with a blank behind it, or nothing if it is not to be shown. -/
def shownWhen (shown : Bool) (s : String) : String :=
  if shown then s ++ " " else ""

/-- The name of a level, filled up with blanks to one width for all levels. -/
def levelColumn (level : Level) : String :=
  level.name ++ String.ofList (List.replicate (5 - level.name.length) ' ')

/-- The line of an entry in columns, with date and time. -/
def prettyLine (config : Config) (now : Moment) (entry : Entry) : String :=
  shownWhen config.timestamps now.full ++ levelColumn entry.level ++ " " ++
    shownWhen (config.target && entry.target != "") ("[" ++ entry.target ++ "]") ++ entry.message

/-- The line of an entry in short, with the time of day and the first letter of the level. -/
def compactLine (config : Config) (now : Moment) (entry : Entry) : String :=
  shownWhen config.timestamps now.short ++ String.ofList (entry.level.name.toList.take 1) ++ " " ++
    shownWhen (config.target && entry.target != "") (entry.target ++ ":") ++ entry.message

/-- The line of an entry as a JSON object, whose fields keep this order. Time and target are always
there. -/
def jsonLine (now : Moment) (entry : Entry) : String :=
  "\x7b\"timestamp\":" ++ Json.stringText now.universal ++
    ",\"level\":" ++ Json.stringText entry.level.name ++
    ",\"target\":" ++ Json.stringText entry.target ++
    ",\"message\":" ++ Json.stringText entry.message ++ "\x7d"

/-- The line of an entry in the form that the settings ask for. -/
def line (config : Config) (now : Moment) (entry : Entry) : String :=
  match config.format with
  | .pretty => prettyLine config now entry
  | .compact => compactLine config now entry
  | .json => jsonLine now entry

end FormCheck.Log
