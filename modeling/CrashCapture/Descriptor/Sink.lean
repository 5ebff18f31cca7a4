import CrashCapture.Failure
import CrashCapture.Log.Line
import CrashCapture.Log.Notice

/-! The writing side of a descriptor. The kernel may take any part of what it is given, or
be interrupted; writing goes on until everything was taken or a request is refused.
-/

namespace CrashCapture.Descriptor

open Log (Noted)

/-- What the kernel does with one request to write. -/
inductive WriteAnswer where
  /-- Takes one byte more than `extra`, or all there is. -/
  | takes (extra : Nat)
  | takesNothing
  | refuses (errno : Errno)
deriving DecidableEq, Repr

/-- A descriptor to write to. It answers by its schedule; after that it takes everything,
or it fails every time. -/
structure Sink where
  number : Int
  received : List UInt8 := []
  schedule : List WriteAnswer := []
  failing : Option IoError := none
deriving DecidableEq, Repr

namespace Sink

/-- Writes all of `data`, starting again where the kernel stopped. -/
def writeScheduled (number : Int) (failing : Option IoError) (received : List UInt8)
    : (schedule : List WriteAnswer) → (data : List UInt8) → Except IoError Unit × Sink
  | schedule, [] => (.ok (), ⟨number, received, schedule, failing⟩)
  | [], data =>
    match failing with
    | some error => (.error error, ⟨number, received, [], failing⟩)
    | none => (.ok (), ⟨number, received ++ data, [], failing⟩)
  | .takes extra :: schedule, data =>
    writeScheduled number failing (received ++ data.take (extra + 1)) schedule
      (data.drop (extra + 1))
  | .takesNothing :: schedule, _ =>
    (.error (.kind .writeZero), ⟨number, received, schedule, failing⟩)
  | .refuses errno :: schedule, data =>
    if errno.kind = .interrupted then writeScheduled number failing received schedule data
    else (.error (.os errno), ⟨number, received, schedule, failing⟩)

def writeQuietly (sink : Sink) (data : List UInt8) : Except IoError Unit × Sink :=
  writeScheduled sink.number sink.failing sink.received sink.schedule data

/-- Writes all of `data` and says so when that fails. -/
def write (sink : Sink) (data : List UInt8) : Noted (Except IoError Unit × Sink) :=
  match sink.writeQuietly data with
  | (.ok (), after) => return (.ok (), after)
  | (.error error, after) => do
    .note ⟨.error, .descriptor,
      "could not write to fd " ++ Digits.signedDecimal sink.number ++ ": " ++ error.brief⟩
    return (.error error, after)

/-- Writes a text; there has to be one. -/
def writeText (sink : Sink) (text : String) : Noted (Except IoError Unit × Sink) :=
  if text.isEmpty then return (.error (.kind .invalidInput), sink)
  else sink.write (Text.bytes text)

/-- The most bytes that one formatted message has. -/
def messageCapacity : Nat := 1024

/-- Writes a message given in fragments; what does not fit is dropped. -/
def writeMessage (sink : Sink) (fragments : List String)
    : Noted (Except IoError Unit × Sink) :=
  let message :=
    ((Log.Bounded.empty messageCapacity).appendAll (fragments.map Text.bytes)).bytes
  if message.isEmpty then return (.error (.kind .invalidInput), sink)
  else sink.write message

end Sink

end CrashCapture.Descriptor
