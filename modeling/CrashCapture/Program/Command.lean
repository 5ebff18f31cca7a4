import CrashCapture.Address
import CrashCapture.Log.Format
import CrashCapture.Stack.Cursor

/-! What the program can be asked to do, and how an address is given to it.
-/

namespace CrashCapture.Program

/-- The failures that can be brought about on purpose. -/
inductive Drill where
  | segv
  | abort
  | trap
  | stackOverflow
  | term
  | panic
  | user
deriving DecidableEq, Repr

namespace Drill

def all : List Drill := [.segv, .abort, .trap, .stackOverflow, .term, .panic, .user]

/-- The drill as a command line names it. -/
def word : Drill → String
  | .segv => "segv"
  | .abort => "abort"
  | .trap => "trap"
  | .stackOverflow => "stack-overflow"
  | .term => "term"
  | .panic => "panic"
  | .user => "user"

/-- The drill as diagnostics name it. -/
def name : Drill → String
  | .segv => "Segv"
  | .abort => "Abort"
  | .trap => "Trap"
  | .stackOverflow => "StackOverflow"
  | .term => "Term"
  | .panic => "Panic"
  | .user => "User"

def ofWord? (word : String) : Option Drill := all.find? (fun drill => drill.word = word)

end Drill

inductive Command where
  | images (filter : Option String)
  | resolve (addresses : List Address)
  | backtrace (depth : Nat)
  | threads (spawn : Nat)
  | crash (drill : Drill) (directory : Option String) (sigterm : Bool)
deriving DecidableEq, Repr

/-- How the program was called: a command, and what was said about diagnostics. -/
structure Invocation where
  command : Command
  logLevel : Option Log.Level := none
  logFormat : Option Log.Format := none
  logToFile : Bool := false
deriving DecidableEq, Repr

/-- The format of diagnostics, people's unless another is asked for. -/
def Invocation.format (invocation : Invocation) : Log.Format := invocation.logFormat.getD .pretty

/-- Reads an address: hexadecimal behind 0x, else decimal. -/
def parseAddress (text : String) : Except String Address :=
  let number :=
    match text.toList with
    | '0' :: 'x' :: digits => Digits.read 16 UInt64.size digits
    | '0' :: 'X' :: digits => Digits.read 16 UInt64.size digits
    | digits => Digits.read 10 UInt64.size digits
  match number with
  | .ok value => .ok (.ofNat value)
  | .error fault => .error ("invalid address " ++ Text.quoted text ++ ": " ++ fault.message)

end CrashCapture.Program
