import CrashCapture.Text.Blank

/-! Severities of log lines, from errors, which are nearly always written, to traces, which
nearly never are.
-/

namespace CrashCapture.Log

inductive Level where
  | error
  | warn
  | info
  | debug
  | trace
deriving DecidableEq, Repr, Inhabited

namespace Level

/-- The more a level lets through, the higher its verbosity. -/
def verbosity : Level → Nat
  | .error => 1
  | .warn => 2
  | .info => 3
  | .debug => 4
  | .trace => 5

/-- Whether a line of severity `line` is written when `limit` is set. -/
def admits (limit line : Level) : Bool := line.verbosity ≤ limit.verbosity

/-- The level's name as a word with a capital. -/
def name : Level → String
  | .error => "Error"
  | .warn => "Warn"
  | .info => "Info"
  | .debug => "Debug"
  | .trace => "Trace"

/-- The level's name in capitals. -/
def upper : Level → String
  | .error => "ERROR"
  | .warn => "WARN"
  | .info => "INFO"
  | .debug => "DEBUG"
  | .trace => "TRACE"

/-- The name in capitals, five characters wide, as a log line starts with it. -/
def label : Level → String
  | .error => "ERROR"
  | .warn => "WARN "
  | .info => "INFO "
  | .debug => "DEBUG"
  | .trace => "TRACE"

def ofLowerName? (name : String) : Option Level :=
  if name = "error" then some .error
  else if name = "warn" ∨ name = "warning" then some .warn
  else if name = "info" then some .info
  else if name = "debug" then some .debug
  else if name = "trace" then some .trace
  else none

/-- Reads a level's name; white space around it and the case of its letters are free. -/
def ofText? (text : String) : Option Level :=
  ofLowerName? (Text.lowerAscii (Text.trim text))

end Level

end CrashCapture.Log
