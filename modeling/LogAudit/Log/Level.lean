import LogAudit.Text.Case

/-! # Levels of log lines

A line has a level, and a log lets lines through from some level on. -/

namespace LogAudit.Log
set_option autoImplicit false

/-- The level of a line. -/
inductive Level
  | debug
  | info
  | warning
  | error
  | critical
deriving Repr, DecidableEq

namespace Level

/-- The rank of a level. -/
def rank : Level → Nat
  | debug => 10
  | info => 20
  | warning => 30
  | error => 40
  | critical => 50

/-- The name of a level. -/
def name : Level → String
  | debug => "DEBUG"
  | info => "INFO"
  | warning => "WARNING"
  | error => "ERROR"
  | critical => "CRITICAL"

/-- The name of a level in small letters. -/
def label : Level → String
  | debug => "debug"
  | info => "info"
  | warning => "warning"
  | error => "error"
  | critical => "critical"

/-- The level with a name in small letters; two levels have a second name. -/
def labelled? (label : String) : Option Level :=
  match label with
  | "debug" => some debug
  | "info" => some info
  | "warning" => some warning
  | "warn" => some warning
  | "error" => some error
  | "critical" => some critical
  | "fatal" => some critical
  | _ => none

end Level

/-- The rank from which on lines are let through where no level is set. -/
def unsetThreshold : Nat := Level.warning.rank

/-- The rank from which on lines are let through, by the name of a level in any case. -/
def threshold? (name : String) : Option Nat :=
  match Text.upper name with
  | "NOTSET" => some unsetThreshold
  | form => (Level.labelled? (Text.lower form)).map Level.rank

end LogAudit.Log
