import FormCheck.Log.Level

namespace FormCheck.Log

/-- The settings of the log, with the values that hold where nothing is set. -/
structure Config where
  debug : Bool := false
  level : Level := .warn
  format : Format := .json
  timestamps : Bool := true
  target : Bool := true
deriving DecidableEq, Repr

namespace Config

instance : Inhabited Config := ⟨{}⟩

/-- A text with its capitals in small letters, those of other scripts excepted. -/
def asciiLower (s : String) : String :=
  String.ofList (s.toList.map Char.toLower)

/-- Whether the text of a flag switches it on. Every other text switches it off. -/
def flagIsOn (s : String) : Bool :=
  s == "1" || asciiLower s == "true"

/-- Whether a switch is on, by its text or, without one, by what holds unset. -/
def flag (value : Option String) (unset : Bool) : Bool :=
  (value.map flagIsOn).getD unset

/-- The settings that a look-up of environment variables gives. A level or form that is not set, or
not known, keeps its default; the default level is lower when debugging is on. -/
def ofLookup (lookup : String → Option String) : Config :=
  let unset : Config := {}
  let debug := flag (lookup "FORMRULE_DEBUG") unset.debug
  { debug
    level := ((lookup "FORMRULE_LOG_LEVEL").bind Level.ofText?).getD
      (if debug then .debug else unset.level)
    format := ((lookup "FORMRULE_LOG_FORMAT").bind Format.ofText?).getD unset.format
    timestamps := flag (lookup "FORMRULE_LOG_TIMESTAMPS") unset.timestamps
    target := flag (lookup "FORMRULE_LOG_TARGET") unset.target }

end Config

end FormCheck.Log
