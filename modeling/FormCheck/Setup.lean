import FormCheck.Profile
import FormCheck.Settings.File

namespace FormCheck.Profile

open Log (Logged)
open Settings (LoadError Variables FileContent)

/-- Why there is no profile: the settings could not be loaded, or no messages are written in their
locale. -/
inductive SetupError where
  | settings (e : LoadError)
  | locale (e : Locale.Unsupported)

def SetupError.message : SetupError → String
  | .settings e => e.message
  | .locale e => e.message

def ofLoaded (loaded : Except LoadError Settings) : Except SetupError Profile := do
  let s ← loaded.mapError .settings
  (ofSettings s).mapError .locale

def fromFile (path : String) (content : FileContent) : Logged (Except SetupError Profile) := do
  let loaded ← Settings.fromFile path content
  pure (ofLoaded loaded)

def setupTarget : String := "formrule"

/-- The profile that an environment asks for, after an environment file, if there is one, has added
to it. The settings are logged before the locale is looked for. -/
def fromEnvironment (environment : Variables) (file : Option String) :
    Logged (Except SetupError Profile) :=
  let full := match file with
    | some text => EnvFile.load environment text
    | none => environment
  match Settings.fromEnvironment full with
  | .error e => pure (.error (.settings (.invalid e)))
  | .ok s => do
    Logged.log .debug setupTarget ("settings from environment: " ++ s.logText)
    pure (ofLoaded (.ok s))

end FormCheck.Profile
