import CrashCapture.Context
import CrashCapture.EventId

/-! The record of one failure. The monitor that caught it fills the record, enabled monitors
may add to it, and then it is delivered.
-/

namespace CrashCapture

/-- An exception of the program's own, or of a language that it runs. -/
structure Exception where
  name : String
  language : Option String := none
  line : Option String := none
  trace : List String := []
deriving DecidableEq, Repr

/-- One failure with everything known of it. A signal of zero means that none is involved. -/
structure Event where
  id : EventId
  monitor : String
  signal : Int := 0
  code : Int := 0
  faultAddress : Address := .null
  registersAreValid : Bool := false
  reason : Option String := none
  exception : Option Exception := none
  isUserReported : Bool := false
  isFatal : Bool := true
  crashedDuring : Bool := false
  context : Context
  cursor : Stack.Cursor

end CrashCapture
