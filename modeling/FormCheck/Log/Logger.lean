import FormCheck.Log.Facade

/-!
The state of the log: which entries are written, through the program's own statements and through
the facade by which other libraries log.

The facade has a filter of its own in front of the log. Whatever changes the level changes the
filter with it.
-/

namespace FormCheck.Log

/-- The state of the log, which is switched while the program runs. -/
structure Logger where
  config : Config
  debug : Bool
  level : Level
  /-- The filter that the facade puts in front of the log. -/
  facade : Filter
  /-- Whether the facade hands its records to the log. -/
  installed : Bool
deriving DecidableEq, Repr

/-- Why the facade cannot be installed: it can be only once. -/
inductive InstallError where
  | alreadyInstalled
deriving DecidableEq, Repr

def InstallError.message : InstallError → String
  | .alreadyInstalled =>
    "attempted to set a logger after the logging system was already initialized"

namespace Logger

/-- The log that starts with given settings. The facade lets nothing pass until it is installed. -/
def start (config : Config) : Logger :=
  { config, debug := config.debug, level := config.level, facade := .off, installed := false }

/-- Whether a line is severe enough for the level of the log. -/
def isEnabled (log : Logger) (level : Level) : Bool :=
  level != .off && log.level ≤ level

/-- Sets the level, and the filter of the facade with it. -/
def setLevel (log : Logger) (level : Level) : Logger :=
  { log with level, facade := level.filter }

/-- Switches debugging on or off. Switching it on lowers the level so far that lines for debugging
are written; switching it off leaves the level alone. -/
def setDebug (log : Logger) (on : Bool) : Logger :=
  let log := { log with debug := on }
  if on ∧ Level.debug < log.level then log.setLevel .debug else log

/-- Has the facade hand its records to the log. It lets pass from then on what the level asks
for. -/
def install (log : Logger) : Except InstallError Logger :=
  if log.installed then .error .alreadyInstalled
  else .ok { log with installed := true, facade := log.level.filter }

/-- Whether the program's own statement at a level goes on to the log. Lines for debugging do so
also when debugging is on. -/
def passesStatement (log : Logger) (level : Level) : Bool :=
  match level with
  | .debug => log.debug || log.isEnabled .debug
  | _ => log.isEnabled level

/-- Whether an entry that the program logs by a statement of its own is written. -/
def writes (log : Logger) (entry : Entry) : Bool :=
  log.passesStatement entry.level && log.isEnabled entry.level

/-- Whether an entry that reaches the log past the filter of the facade is written. -/
def writesDirect (log : Logger) (entry : Entry) : Bool :=
  log.isEnabled entry.level

/-- Whether a record that is handed to the facade is written. -/
def writesRecord (log : Logger) (record : Record) : Bool :=
  log.installed && log.facade.passes record.severity && log.writesDirect record.entry

/-- Whether an entry is written that goes through the facade. -/
def writesFacade (log : Logger) (entry : Entry) : Bool :=
  (Record.ofEntry? entry).any log.writesRecord

/-- The lines that a log writes for what the program logs by its own statements. -/
def lines (log : Logger) (now : Moment) (entries : List Entry) : List String :=
  (entries.filter log.writes).map (line log.config now)

end Logger

end FormCheck.Log
