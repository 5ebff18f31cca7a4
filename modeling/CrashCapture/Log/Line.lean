import CrashCapture.Log.Level

/-! Log lines of bounded length. A line is put together in a buffer that never grows: what
does not fit is dropped, and the newline at the end takes the place of the last byte when
the buffer is full.
-/

namespace CrashCapture.Log

/-- Bytes collected up to a fixed capacity. -/
structure Bounded where
  capacity : Nat
  bytes : List UInt8
  fits : bytes.length ≤ capacity

namespace Bounded

def empty (capacity : Nat) : Bounded := ⟨capacity, [], Nat.zero_le _⟩

/-- Adds as much of `extra` as there is room for. -/
def append (line : Bounded) (extra : List UInt8) : Bounded where
  capacity := line.capacity
  bytes := line.bytes ++ extra.take (line.capacity - line.bytes.length)
  fits := by
    have := line.fits
    simp only [List.length_append, List.length_take]
    omega

/-- Makes `byte` the last byte: after the others when there is room, else in the place of
the last of them. A buffer of no capacity stays empty. -/
def terminate (line : Bounded) (byte : UInt8) : Bounded where
  capacity := line.capacity
  bytes :=
    if line.capacity = 0 then []
    else line.bytes.take (line.capacity - 1) ++ [byte]
  fits := by
    split
    · simp
    · simp only [List.length_append, List.length_take, List.length_singleton]
      omega

def appendAll (line : Bounded) (fragments : List (List UInt8)) : Bounded :=
  fragments.foldl append line

end Bounded

/-- The most bytes a log line has, its newline included. -/
def lineCapacity : Nat := 512

/-- The fragments a line is put together from: label, origin, and then the message in the
fragments it comes in. -/
def lineFragments (level : Level) (origin : String) (message : List String) : List String :=
  [level.label, " ", origin, ": "] ++ message

/-- The bytes of one log line. -/
def line (level : Level) (origin : String) (message : List String) : List UInt8 :=
  let fragments := (lineFragments level origin message).map Text.bytes
  (((Bounded.empty lineCapacity).appendAll fragments).terminate 0x0A).bytes

/-- Where lines go and which are written. A negative descriptor silences the logger. -/
structure Logger where
  level : Level := .warn
  descriptor : Int := 2
deriving DecidableEq, Repr, Inhabited

namespace Logger

def isEnabled (logger : Logger) (level : Level) : Bool :=
  logger.level.admits level && 0 ≤ logger.descriptor

/-- What one request to log hands to the descriptor. -/
def write (logger : Logger) (level : Level) (origin : String) (message : List String)
    : List UInt8 :=
  if logger.isEnabled level then line level origin message else []

end Logger

end CrashCapture.Log
