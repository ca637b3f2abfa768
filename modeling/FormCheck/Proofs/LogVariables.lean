import FormCheck.Log.Config
import Mathlib.Logic.Function.Basic

namespace FormCheck.Log.Config

/-- The environment variables that the log is set up by. -/
inductive Variable where
  | debug
  | level
  | format
  | timestamps
  | target
deriving DecidableEq, Repr

namespace Variable

def name : Variable → String
  | .debug => "FORMRULE_DEBUG"
  | .level => "FORMRULE_LOG_LEVEL"
  | .format => "FORMRULE_LOG_FORMAT"
  | .timestamps => "FORMRULE_LOG_TIMESTAMPS"
  | .target => "FORMRULE_LOG_TARGET"

/-- Whether a text is one of the spellings of a switch, on or off. -/
def isSwitchText (text : String) : Bool :=
  text == "1" || text == "0" || asciiLower text == "true" || asciiLower text == "false"

/-- Whether a text means something for a variable. -/
def recognises : Variable → String → Bool
  | .level, text => (Level.ofText? text).isSome
  | .format, text => (Format.ofText? text).isSome
  | .debug, text | .timestamps, text | .target, text => isSwitchText text

/-- The settings with the switch of a variable off, if it is one that is on unless set. -/
def switchOff : Variable → Config → Config
  | .timestamps, config => { config with timestamps := false }
  | .target, config => { config with target := false }
  | .debug, config | .level, config | .format, config => config

theorem name_injective : Function.Injective name := by
  intro v w h
  cases v <;> cases w <;> simp [name] at h ⊢

end Variable

open Variable (isSwitchText)

variable {lookup lookup' : String → Option String} {v w : Variable} {text : String}

/-- A look-up to which one variable is not set. -/
def without (lookup : String → Option String) (v : Variable) : String → Option String :=
  Function.update lookup v.name none

theorem without_name_self : without lookup v v.name = none :=
  Function.update_self ..

theorem without_name_of_ne (h : w ≠ v) : without lookup v w.name = lookup w.name :=
  Function.update_of_ne (Variable.name_injective.ne h) ..

theorem flag_of_not_isSwitchText (h : isSwitchText text = false) (unset : Bool) :
    flag (some text) unset = false := by
  simp only [isSwitchText, Bool.or_eq_false_iff] at h
  obtain ⟨⟨⟨hone, -⟩, htrue⟩, -⟩ := h
  simp [flag, flagIsOn, hone, htrue]

theorem flag_none (unset : Bool) : flag none unset = unset := rfl

theorem ofLookup_eq (lookup : String → Option String) :
    ofLookup lookup =
      { debug := flag (lookup Variable.debug.name) false
        level := ((lookup Variable.level.name).bind Level.ofText?).getD
          (if flag (lookup Variable.debug.name) false then .debug else .warn)
        format := ((lookup Variable.format.name).bind Format.ofText?).getD .json
        timestamps := flag (lookup Variable.timestamps.name) true
        target := flag (lookup Variable.target.name) true } := rfl

theorem Variable.switchOff_eq_self_iff {config : Config}
    (htimestamps : v = .timestamps → config.timestamps = true)
    (htarget : v = .target → config.target = true) :
    v.switchOff config = config ↔ v ≠ .timestamps ∧ v ≠ .target := by
  cases v with
  | debug | level | format => simp [switchOff]
  | timestamps =>
      refine ⟨fun h => ?_, fun h => absurd rfl h.1⟩
      have hoff : false = config.timestamps := congrArg Config.timestamps h
      cases hoff.trans (htimestamps rfl)
  | target =>
      refine ⟨fun h => ?_, fun h => absurd rfl h.2⟩
      have hoff : false = config.target := congrArg Config.target h
      cases hoff.trans (htarget rfl)

/-- A text that means nothing for its variable leaves the settings as they are without the variable,
whatever else is set, unless the variable is one of the two switches that are on by default. Those
it turns off. -/
theorem unrecognised_text_as_unset_iff (lookup : String → Option String) (v : Variable)
    {text : String} (htext : lookup v.name = some text) (hunknown : v.recognises text = false) :
    ofLookup lookup = v.switchOff (ofLookup (without lookup v)) ∧
    (ofLookup lookup = ofLookup (without lookup v) ↔ v ≠ .timestamps ∧ v ≠ .target) := by
  have hswitched : ofLookup lookup = v.switchOff (ofLookup (without lookup v)) := by
    cases v with
    | debug =>
        have hoff := flag_of_not_isSwitchText hunknown false
        simp (disch := decide) only [ofLookup_eq, Variable.switchOff, htext, hoff,
          without_name_self, without_name_of_ne, flag_none]
    | level =>
        rw [Variable.recognises, Option.isSome_eq_false_iff, Option.isNone_iff_eq_none] at hunknown
        simp (disch := decide) only [ofLookup_eq, Variable.switchOff, htext, Option.bind_some,
          hunknown, without_name_self, Option.bind_none, without_name_of_ne]
    | format =>
        rw [Variable.recognises, Option.isSome_eq_false_iff, Option.isNone_iff_eq_none] at hunknown
        simp (disch := decide) only [ofLookup_eq, Variable.switchOff, htext, Option.bind_some,
          hunknown, without_name_self, Option.bind_none, without_name_of_ne]
    | timestamps =>
        have hoff := flag_of_not_isSwitchText hunknown true
        simp (disch := decide) only [ofLookup_eq, Variable.switchOff, htext, hoff,
          without_name_of_ne]
    | target =>
        have hoff := flag_of_not_isSwitchText hunknown true
        simp (disch := decide) only [ofLookup_eq, Variable.switchOff, htext, hoff,
          without_name_of_ne]
  refine ⟨hswitched, ?_⟩
  rw [hswitched]
  refine Variable.switchOff_eq_self_iff ?_ ?_
  · rintro rfl
    rw [ofLookup_eq, without_name_self, flag_none]
  · rintro rfl
    rw [ofLookup_eq, without_name_self, flag_none]

theorem unrecognised_text_as_unset_of_level :
    let lookup := fun name => if name = "FORMRULE_DEBUG" then some " 1" else
      if name = "FORMRULE_LOG_LEVEL" then some "loud" else none
    lookup Variable.level.name = some "loud" ∧ Variable.level.recognises "loud" = false ∧
      lookup Variable.debug.name = some " 1" ∧ Variable.debug.recognises " 1" = false ∧
      ofLookup lookup = ofLookup (without lookup .level) ∧
      ofLookup lookup = ofLookup (without lookup .debug) := by
  intro lookup
  have hlevel : lookup Variable.level.name = some "loud" := by decide
  have hloud : Variable.level.recognises "loud" = false := by decide
  have hdebug : lookup Variable.debug.name = some " 1" := by decide
  have hblank : Variable.debug.recognises " 1" = false := by decide
  obtain ⟨-, hsame⟩ := unrecognised_text_as_unset_iff lookup .level hlevel hloud
  obtain ⟨-, hsame'⟩ := unrecognised_text_as_unset_iff lookup .debug hdebug hblank
  exact ⟨hlevel, hloud, hdebug, hblank, hsame.mpr (by decide), hsame'.mpr (by decide)⟩

theorem unrecognised_text_turns_time_off :
    let lookup := fun name => if name = "FORMRULE_LOG_TIMESTAMPS" then some "yes" else none
    lookup Variable.timestamps.name = some "yes" ∧
      Variable.timestamps.recognises "yes" = false ∧
      (ofLookup lookup).timestamps = false ∧
      (ofLookup (without lookup .timestamps)).timestamps = true := by
  decide

end FormCheck.Log.Config
