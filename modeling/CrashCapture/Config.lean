import CrashCapture.Failure
import CrashCapture.Log.Level
import CrashCapture.Monitor.Selection
import CrashCapture.Stack.Cursor
import CrashCapture.Text.Quoted

/-! What a program wants captured, and how settings from its environment change that.
-/

namespace CrashCapture

/-- Everything that is put in force when capture is installed. -/
structure Config where
  monitors : Selection := .all
  sigterm : Bool := false
  maxDepth : Nat := Stack.Cursor.defaultMaxDepth
  reserved : List ThreadId := []
  logLevel : Log.Level := .warn
  callback : Bool := false
deriving DecidableEq, Repr

namespace Config

def trueWords : List String := ["1", "true", "yes", "on"]

def falseWords : List String := ["0", "false", "no", "off", ""]

/-- Reads a truth value; white space around it and letter case are free. -/
def readSwitch (key value : String) : Except Failure Bool :=
  let word := Text.lowerAscii (Text.trim value)
  if trueWords.contains word then .ok true
  else if falseWords.contains word then .ok false
  else .error (.invalidArgument (key ++ ": expected a boolean, got " ++ Text.quoted value))

def readMonitors (key value : String) : Except Failure Selection :=
  (Selection.parse value).mapError fun name =>
    .invalidArgument (key ++ ": unknown monitor " ++ Text.quoted name)

/-- Reads a depth limit, which is positive. -/
def readDepth (key value : String) : Except Failure Nat :=
  match Digits.read 10 UInt64.size (Text.trim value).toList with
  | .ok (depth + 1) => .ok (depth + 1)
  | _ =>
    .error (.invalidArgument
      (key ++ ": expected a positive number, got " ++ Text.quoted value))

/-- The defaults, changed by the variables that are set. The first variable that cannot be
read, in this order, is the error. -/
def ofVariables (lookUp : String → Option String) : Except Failure Config := do
  let start : Config := {}
  let monitors ← match lookUp "FAULTLINE_MONITORS" with
    | none => .ok start.monitors
    | some value => readMonitors "FAULTLINE_MONITORS" value
  let sigterm ← match lookUp "FAULTLINE_SIGTERM" with
    | none => .ok start.sigterm
    | some value => readSwitch "FAULTLINE_SIGTERM" value
  let maxDepth ← match lookUp "FAULTLINE_MAX_DEPTH" with
    | none => .ok start.maxDepth
    | some value => readDepth "FAULTLINE_MAX_DEPTH" value
  return { start with monitors := monitors, sigterm := sigterm, maxDepth := maxDepth }

end Config

end CrashCapture
