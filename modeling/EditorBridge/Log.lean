/-!
Log records.  Nothing in this library writes a log; computations that have something to report
return their records in order.
-/

set_option autoImplicit false

namespace EditorBridge

/-- The levels of log records, the most important one first. -/
inductive LogLevel
  | error | warn | info | debug | trace
deriving DecidableEq, Repr

namespace LogLevel

/-- The rank of a level; a limit lets through the levels of at most its own rank. -/
def rank : LogLevel → Nat
  | error => 1
  | warn => 2
  | info => 3
  | debug => 4
  | trace => 5

def name : LogLevel → String
  | error => "ERROR"
  | warn => "WARN"
  | info => "INFO"
  | debug => "DEBUG"
  | trace => "TRACE"

end LogLevel

/-- One line of a log: its level, the part of the program it comes from, and its text. -/
structure LogRecord where
  level : LogLevel
  source : String
  message : String
deriving DecidableEq, Repr

end EditorBridge
