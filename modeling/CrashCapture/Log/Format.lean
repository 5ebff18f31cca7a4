import CrashCapture.Log.Level
import CrashCapture.Text.Quoted

/-! How diagnostics are written: for people, or as objects for machines.
-/

namespace CrashCapture.Log

inductive Format where
  | pretty
  | json
deriving DecidableEq, Repr, Inhabited

namespace Format

def name : Format → String
  | .pretty => "Pretty"
  | .json => "Json"

/-- Reads a format's name in any letter case. No letter outside ASCII has a lower case that
occurs in these names. -/
def parse (text : String) : Except String Format :=
  let name := Text.lowerAscii text
  if name = "pretty" ∨ name = "dev" ∨ name = "development" then .ok .pretty
  else if name = "json" ∨ name = "prod" ∨ name = "production" then .ok .json
  else .error ("Unknown log format: " ++ text ++ ". Use 'pretty' or 'json'")

end Format

/-- Reads a level that has to be given. -/
def Level.parse (text : String) : Except String Level :=
  match Level.ofText? text with
  | some level => .ok level
  | none =>
    .error ("unknown log level " ++ Text.quoted text
      ++ "; expected error, warn, info, debug or trace")

end CrashCapture.Log
