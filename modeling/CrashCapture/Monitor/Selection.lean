import CrashCapture.Text.Blank

/-! The three monitors, and selections of them. A selection is written as names with commas
between them; the order of the names and their repetition do not matter.
-/

namespace CrashCapture

/-- What watches for failures of one kind. -/
inductive Monitor where
  | signal
  | panic
  | user
deriving DecidableEq, Repr

namespace Monitor

/-- All monitors, in the order in which they see an event. -/
def all : List Monitor := [.signal, .panic, .user]

/-- The name that events carry. -/
def id : Monitor → String
  | .signal => "Signal"
  | .panic => "Panic"
  | .user => "UserReported"

def ofId? (id : String) : Option Monitor := all.find? (fun monitor => monitor.id = id)

/-- Whether the failures it catches end the process. -/
def isFatal : Monitor → Bool
  | .signal => true
  | .panic => true
  | .user => false

/-- Whether it runs inside a signal handler. -/
def isAsyncSafe : Monitor → Bool
  | .signal => true
  | _ => false

def flagBits (monitor : Monitor) : Nat :=
  monitor.isFatal.toNat + 2 * monitor.isAsyncSafe.toNat

end Monitor

/-- A choice among the monitors. -/
structure Selection where
  signal : Bool := false
  panic : Bool := false
  user : Bool := false
deriving DecidableEq, Repr, Inhabited

namespace Selection

def none : Selection := {}

def all : Selection := ⟨true, true, true⟩

def contains (selection : Selection) : Monitor → Bool
  | .signal => selection.signal
  | .panic => selection.panic
  | .user => selection.user

/-- The selection with one monitor chosen or left out. -/
def put (selection : Selection) (on : Bool) : Monitor → Selection
  | .signal => { selection with signal := on }
  | .panic => { selection with panic := on }
  | .user => { selection with user := on }

def union (a b : Selection) : Selection :=
  ⟨a.signal || b.signal, a.panic || b.panic, a.user || b.user⟩

def bits (selection : Selection) : Nat :=
  selection.signal.toNat + 2 * selection.panic.toNat + 4 * selection.user.toNat

/-- The monitors whose bits are set; other bits mean nothing. -/
def ofBits (bits : Nat) : Selection := ⟨bits.testBit 0, bits.testBit 1, bits.testBit 2⟩

/-- The selection as diagnostics show it. -/
def text (selection : Selection) : String :=
  let names :=
    (if selection.signal then ["SIGNAL"] else [])
      ++ (if selection.panic then ["PANIC"] else [])
      ++ (if selection.user then ["USER_REPORTED"] else [])
  "MonitorSet(" ++ (if names.isEmpty then "0x0" else String.intercalate " | " names) ++ ")"

/-- The selection that one name stands for, in any letter case. -/
def ofName? (name : String) : Option Selection :=
  let name := Text.lowerAscii name
  if name = "signal" then some { signal := true }
  else if name = "panic" then some { panic := true }
  else if name = "user" ∨ name = "user_reported" ∨ name = "userreported" then
    some { user := true }
  else if name = "all" then some all
  else if name = "none" then some none
  else Option.none

/-- Joins what the names stand for; a blank one stands for nothing. The first unknown name
is the error. -/
def ofNames : List String → Except String Selection
  | [] => .ok none
  | name :: rest =>
    let name := Text.trim name
    if name.isEmpty then ofNames rest
    else
      match ofName? name with
      | Option.none => .error name
      | some selection => (ofNames rest).map selection.union

/-- Reads a list of names. -/
def parse (list : String) : Except String Selection := ofNames (Text.split ',' list)

end Selection

end CrashCapture
