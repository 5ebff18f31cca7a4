import CrashCapture.Descriptor.Sink
import CrashCapture.Text.Quoted

/-! Buffered writing with a buffer of fixed size. What does not fit into the room left makes
the buffer go out first; what is larger than the whole buffer then goes out directly.
-/

namespace CrashCapture.Descriptor

open Log (Noted)

/-- Why a step of a writer failed. With a negative descriptor nothing ever leaves the
buffer, and then data may not fit into it. -/
inductive WriteFault where
  | failed (error : IoError)
  | overrun
deriving DecidableEq, Repr

/-- A buffer in front of a descriptor, which it owns or borrows. -/
structure Writer where
  capacity : Nat
  pending : List UInt8 := []
  sink : Sink
  owned : Bool := false
deriving DecidableEq, Repr

namespace Writer

/-- A writer of a new file, or the refusal to create it. Only what the kernel refused is
noted. -/
def create (path : List UInt8) (capacity : Nat) (opened : Except IoError Sink)
    : Noted (Except IoError Writer) :=
  match opened with
  | .ok sink => return .ok { capacity := capacity, sink := sink, owned := true }
  | .error (.os errno) => do
    .note ⟨.error, .buffered,
      "could not open " ++ Text.quotedBytes path ++ ": " ++ (IoError.os errno).brief⟩
    return .error (.os errno)
  | .error error => return .error error

/-- Lends a descriptor to a writer. -/
def borrow (sink : Sink) (capacity : Nat) : Writer where
  capacity := capacity
  sink := sink

/-- Sends out what is in the buffer. When that fails, all of it stays there. -/
def flush (writer : Writer) : Noted (Except IoError Unit × Writer) :=
  if writer.sink.number < 0 ∨ writer.pending = [] then return (.ok (), writer)
  else do
    match ← writer.sink.write writer.pending with
    | (.ok (), sink) => return (.ok (), { writer with pending := [], sink := sink })
    | (.error error, sink) => return (.error error, { writer with sink := sink })

/-- Puts data into the buffer, or sends it directly when the buffer is too small. -/
def place (writer : Writer) (data : List UInt8)
    : Noted (Except WriteFault Unit × Writer) :=
  if writer.capacity < data.length then do
    let (result, sink) ← writer.sink.write data
    return (result.mapError .failed, { writer with sink := sink })
  else if writer.capacity < writer.pending.length + data.length then
    return (.error .overrun, writer)
  else return (.ok (), { writer with pending := writer.pending ++ data })

/-- Adds data behind what is pending. -/
def write (writer : Writer) (data : List UInt8)
    : Noted (Except WriteFault Unit × Writer) :=
  if writer.capacity - writer.pending.length < data.length then do
    match ← writer.flush with
    | (.error error, after) => return (.error (.failed error), after)
    | (.ok (), after) => after.place data
  else writer.place data

/-- Writes fragments one after another up to the first that fails. -/
def writeAll (writer : Writer) : List (List UInt8) → Noted (Except WriteFault Unit × Writer)
  | [] => return (.ok (), writer)
  | fragment :: rest => do
    match ← writer.write fragment with
    | (.ok (), after) => writeAll after rest
    | (.error fault, after) => return (.error fault, after)

/-- Sends out what is pending and lets the descriptor go. -/
def close (writer : Writer) : Noted (Except IoError Unit × Sink) := do
  let (result, after) ← writer.flush
  return (result, after.sink)

/-- Lets the descriptor go after one last attempt to send out what is pending; nobody learns
how that went. -/
def drop (writer : Writer) : Noted Sink := do
  let (_, sink) ← writer.close
  return sink

end Writer

end CrashCapture.Descriptor
