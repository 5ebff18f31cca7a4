import CrashCapture.Address

/-! The signals that end a process because something in it failed. Each has its number and
its name; a few of them come with the address that the fault touched.
-/

namespace CrashCapture

inductive FatalSignal where
  | abort
  | bus
  | arithmetic
  | illegal
  | pipe
  | segment
  | systemCall
  | breakpoint
  | terminate
deriving DecidableEq, Repr

namespace FatalSignal

/-- All of them, in the order in which handlers are installed. -/
def all : List FatalSignal :=
  [.abort, .bus, .arithmetic, .illegal, .pipe, .segment, .systemCall, .breakpoint,
    .terminate]

def number : FatalSignal → Nat
  | .abort => 6
  | .bus => 7
  | .arithmetic => 8
  | .illegal => 4
  | .pipe => 13
  | .segment => 11
  | .systemCall => 31
  | .breakpoint => 5
  | .terminate => 15

def name : FatalSignal → String
  | .abort => "SIGABRT"
  | .bus => "SIGBUS"
  | .arithmetic => "SIGFPE"
  | .illegal => "SIGILL"
  | .pipe => "SIGPIPE"
  | .segment => "SIGSEGV"
  | .systemCall => "SIGSYS"
  | .breakpoint => "SIGTRAP"
  | .terminate => "SIGTERM"

def ofNumber? (number : Int) : Option FatalSignal :=
  all.find? (fun signal => signal.number = number)

/-- Whether the kernel says which address the fault touched. -/
def carriesAddress (signal : FatalSignal) : Bool :=
  signal = .segment ∨ signal = .bus ∨ signal = .illegal ∨ signal = .arithmetic

theorem mem_all (signal : FatalSignal) : signal ∈ all := by cases signal <;> decide

end FatalSignal

/-- Why a signal was sent, and the address that came with it. -/
structure SignalCause where
  code : Int
  address : Address := .null
deriving DecidableEq, Repr

/-- A signal that the process sent to itself. -/
def SignalCause.sentByItself : SignalCause := { code := -6 }

/-- The highest number of a signal. -/
def signalLimit : Nat := 64

/-- Signals outside the fatal ones that do nothing unless the process asks for them: a child
changed, the process goes on, urgent data, a resized window. -/
def quietSignals : List Nat := [17, 18, 23, 28]

end CrashCapture
