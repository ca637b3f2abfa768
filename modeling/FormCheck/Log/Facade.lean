import FormCheck.Log.Line

/-!
The facade by which other libraries log: the records that they hand to it, and the filter that it
puts in front of the log.

The facade orders its levels by how much is said, and the log by how severe it is. The filter that
belongs to a level of the log therefore lets the more pass the lower the level is.
-/

namespace FormCheck.Log

/-- How much the facade lets pass, from nothing to everything. -/
inductive Filter where
  | off
  | error
  | warn
  | info
  | debug
  | trace
deriving DecidableEq, Repr

namespace Filter

/-- The place of a filter in the facade's order, in which the one that lets most pass is the
last. -/
def rank : Filter → Nat
  | .off => 0
  | .error => 1
  | .warn => 2
  | .info => 3
  | .debug => 4
  | .trace => 5

def name : Filter → String
  | .off => "OFF"
  | .error => "ERROR"
  | .warn => "WARN"
  | .info => "INFO"
  | .debug => "DEBUG"
  | .trace => "TRACE"

end Filter

/-- The level of a record. No record is at the level `off`. -/
inductive Severity where
  | error
  | warn
  | info
  | debug
  | trace
deriving DecidableEq, Repr

namespace Severity

/-- The place of a severity among the filters: the least of these that lets it pass. -/
def rank : Severity → Nat
  | .error => 1
  | .warn => 2
  | .info => 3
  | .debug => 4
  | .trace => 5

/-- The level of the log that a severity stands for. -/
def level : Severity → Level
  | .error => .error
  | .warn => .warn
  | .info => .info
  | .debug => .debug
  | .trace => .trace

end Severity

namespace Level

/-- The severity of records at a level of the log, if there are any. -/
def severity? : Level → Option Severity
  | .trace => some .trace
  | .debug => some .debug
  | .info => some .info
  | .warn => some .warn
  | .error => some .error
  | .off => none

/-- The filter for a log at a level. -/
def filter : Level → Filter
  | .trace => .trace
  | .debug => .debug
  | .info => .info
  | .warn => .warn
  | .error => .error
  | .off => .off

end Level

/-- What another library hands to the facade to be logged. -/
structure Record where
  severity : Severity
  target : String
  message : String
deriving DecidableEq, Repr

namespace Record

/-- The entry that a record is in the log. -/
def entry (record : Record) : Entry :=
  { level := record.severity.level, target := record.target, message := record.message }

/-- The record that an entry is for the facade, if there are records of its level. -/
def ofEntry? (entry : Entry) : Option Record :=
  entry.level.severity?.map fun severity =>
    { severity, target := entry.target, message := entry.message }

end Record

/-- Whether a filter lets records of a severity pass. -/
def Filter.passes (filter : Filter) (severity : Severity) : Bool :=
  severity.rank ≤ filter.rank

theorem Level.rank_filter (level : Level) : level.filter.rank + level.rank = 5 := by
  cases level <;> rfl

theorem Severity.rank_level (severity : Severity) : severity.rank + severity.level.rank = 5 := by
  cases severity <;> rfl

/-- The filter of a level lets pass what a log at that level takes, although the two orders are
opposite. -/
theorem Level.passes_filter_iff {level : Level} {severity : Severity} :
    level.filter.passes severity = true ↔ level ≤ severity.level := by
  have hfilter := level.rank_filter
  have hseverity := severity.rank_level
  change decide (severity.rank ≤ level.filter.rank) = true ↔ level.rank ≤ severity.level.rank
  rw [decide_eq_true_eq]
  omega

end FormCheck.Log
