import CrashCapture.Descriptor.Source
import CrashCapture.Text.Quoted

/-! Buffered reading with a buffer of fixed size. The reader keeps a window of unread bytes;
before it asks for more it moves the window to the front.
-/

namespace CrashCapture.Descriptor

open Log (Noted)

/-- A window of unread bytes from `start` on in a buffer, and the descriptor behind it. -/
structure Reader where
  capacity : Nat
  start : Nat := 0
  window : List UInt8 := []
  source : Source
deriving DecidableEq, Repr

namespace Reader

/-- Lends a descriptor to a reader; nothing is read yet. -/
def borrow (source : Source) (capacity : Nat) : Reader where
  capacity := capacity
  source := source

def finish (reader : Reader) : Nat := reader.start + reader.window.length

/-- Reads more bytes behind the unread ones. -/
def fill (reader : Reader) : Noted (Except IoError Unit × Reader) :=
  let front := { reader with start := 0 }
  if reader.window.length = reader.capacity then return (.ok (), front)
  else
    match reader.source.readSome (reader.capacity - reader.window.length) with
    | (.ok bytes, source) =>
      return (.ok (), { front with window := reader.window ++ bytes, source := source })
    | (.error error, source) => do
      .note ⟨.error, .buffered,
        "could not read fd " ++ Digits.signedDecimal reader.source.number ++ ": "
          ++ error.brief⟩
      return (.error error, { front with source := source })

/-- A reader of an existing file with its buffer filled, or the refusal. -/
def openFile (path : List UInt8) (capacity : Nat) (opened : Except Errno Source)
    : Noted (Except IoError Reader) :=
  if capacity = 0 then return .error (.kind .invalidInput)
  else
    match opened with
    | .error errno => do
      .note ⟨.error, .buffered,
        "could not open " ++ Text.quotedBytes path ++ ": " ++ (IoError.os errno).brief⟩
      return .error (.os errno)
    | .ok source => do
      let (result, reader) ← (borrow source capacity).fill
      return result.map fun _ => reader

/-- Fills the window when it is empty. -/
def ready (reader : Reader) : Noted Reader :=
  if reader.window = [] then do
    let (_, filled) ← reader.fill
    return filled
  else return reader

/-- The first `count` unread bytes are taken. -/
def skip (reader : Reader) (count : Nat) : Reader :=
  { reader with
    start := reader.start + min count reader.window.length
    window := reader.window.drop count }

/-- Takes up to `count` bytes, fewer only at the end or when reading fails. -/
def read (reader : Reader) (count : Nat) : Noted (List UInt8 × Reader) :=
  if _h : count = 0 then return ([], reader)
  else do
    let filled ← reader.ready
    match _w : filled.window with
    | [] => return ([], filled)
    | byte :: bytes =>
      let part := (byte :: bytes).take count
      let rest ← read (filled.skip part.length) (count - part.length)
      return (part ++ rest.1, rest.2)
termination_by count
decreasing_by simp only [List.length_take, List.length_cons]; omega

/-- The bytes up to a delimiter, which is one of them, and whether it is there. -/
def untilDelimiter (delimiter : UInt8) : List UInt8 → List UInt8 × Bool
  | [] => ([], false)
  | byte :: rest =>
    if byte = delimiter then ([byte], true)
    else
      let more := untilDelimiter delimiter rest
      (byte :: more.1, more.2)

theorem untilDelimiter_length (delimiter : UInt8) (bytes : List UInt8)
    : bytes ≠ [] → 0 < (untilDelimiter delimiter bytes).1.length := by
  cases bytes with
  | nil => intro h; exact absurd rfl h
  | cons byte rest =>
    intro _
    unfold untilDelimiter
    split <;> simp

/-- Takes bytes up to and with a delimiter, at most `count` of them. -/
def readUntil (reader : Reader) (delimiter : UInt8) (count : Nat)
    : Noted ((List UInt8 × Bool) × Reader) :=
  if _h : count = 0 then return (([], false), reader)
  else do
    let filled ← reader.ready
    match _w : filled.window with
    | [] => return (([], false), filled)
    | byte :: bytes =>
      let part := untilDelimiter delimiter ((byte :: bytes).take count)
      let after := filled.skip part.1.length
      if part.2 then return (part, after)
      else
        let rest ← readUntil after delimiter (count - part.1.length)
        return ((part.1 ++ rest.1.1, rest.1.2), rest.2)
termination_by count
decreasing_by
  have h : (byte :: bytes).take count ≠ [] := by
    cases count with
    | zero => exact absurd rfl _h
    | succ n => simp
  have := untilDelimiter_length delimiter _ h
  omega

end Reader

end CrashCapture.Descriptor
