/-!
# Substrate.Log.Level

How much a log shows, on a scale from nothing to everything.
-/

namespace Substrate.Log

/-- A level of a line, or of a log. -/
inductive Level where
  | off
  | error
  | warn
  | info
  | debug
  | trace
  deriving Repr, DecidableEq

namespace Level

/-- The place of a level on the scale. -/
def rank : Level → Nat
  | off => 0
  | error => 1
  | warn => 2
  | info => 3
  | debug => 4
  | trace => 5

/-- The name of a level in log lines. -/
def name : Level → String
  | off => "OFF"
  | error => "ERROR"
  | warn => "WARN"
  | info => "INFO"
  | debug => "DEBUG"
  | trace => "TRACE"

/-- All levels, from nothing to everything. -/
def all : List Level := [off, error, warn, info, debug, trace]

/-- The level of a name. Capitals do not matter. -/
def ofName? (s : String) : Option Level := all.find? fun level => level.name == s.toUpper

end Level

end Substrate.Log
