import FormCheck.Text.Blank
import FormCheck.Text.Lowercase

namespace FormCheck.Log

/-- How severe a line is. `off` is above every line: a log at that level writes nothing. -/
inductive Level where
  | trace
  | debug
  | info
  | warn
  | error
  | off
deriving DecidableEq, Repr

namespace Level

def all : List Level :=
  [.trace, .debug, .info, .warn, .error, .off]

def rank : Level → Nat
  | .trace => 0
  | .debug => 1
  | .info => 2
  | .warn => 3
  | .error => 4
  | .off => 5

instance : LE Level := ⟨fun a b => a.rank ≤ b.rank⟩

instance : LT Level := ⟨fun a b => a.rank < b.rank⟩

instance (a b : Level) : Decidable (a ≤ b) := inferInstanceAs (Decidable (a.rank ≤ b.rank))

instance (a b : Level) : Decidable (a < b) := inferInstanceAs (Decidable (a.rank < b.rank))

def name : Level → String
  | .trace => "TRACE"
  | .debug => "DEBUG"
  | .info => "INFO"
  | .warn => "WARN"
  | .error => "ERROR"
  | .off => "OFF"

/-- The level that a text names, in letters of either case and with blanks around it. -/
def ofText? (s : String) : Option Level :=
  match Text.lowercase (Text.trim s) with
  | "trace" => some .trace
  | "debug" => some .debug
  | "info" => some .info
  | "warn" | "warning" => some .warn
  | "error" => some .error
  | "off" | "none" => some .off
  | _ => none

def below (level : Level) : List Level :=
  all.filter (· < level)

end Level

/-- The forms in which lines are written. -/
inductive Format where
  | pretty
  | compact
  | json
deriving DecidableEq, Repr

namespace Format

def name : Format → String
  | .pretty => "Pretty"
  | .compact => "Compact"
  | .json => "Json"

/-- The form that a text names, in letters of either case and with blanks around it. -/
def ofText? (s : String) : Option Format :=
  match Text.lowercase (Text.trim s) with
  | "pretty" => some .pretty
  | "compact" => some .compact
  | "json" => some .json
  | _ => none

end Format

end FormCheck.Log
