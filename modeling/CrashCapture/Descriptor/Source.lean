import CrashCapture.Failure
import CrashCapture.Log.Notice

/-! The reading side of a descriptor. The kernel may deliver less than there is room for, or
be interrupted; an empty delivery is the end of the file.
-/

namespace CrashCapture.Descriptor

open Log (Noted)

/-- What the kernel does with one request to read. -/
inductive ReadAnswer where
  /-- Delivers at most one byte more than `extra`. -/
  | gives (extra : Nat)
  | refuses (errno : Errno)
deriving DecidableEq, Repr

/-- A descriptor to read from. It answers by its schedule; after that it delivers whatever
there is room for. -/
structure Source where
  number : Int
  content : List UInt8 := []
  schedule : List ReadAnswer := []
  /-- The refusal when nothing is left but more may come. -/
  atEnd : Option Errno := none
  /-- The refusal of every request. -/
  broken : Option Errno := none
deriving DecidableEq, Repr

namespace Source

/-- One delivery into `room` bytes, of at most `most` of them. -/
def deliver (source : Source) (room most : Nat) : Except IoError (List UInt8) × Source :=
  match source.broken, source.content, source.atEnd with
  | some errno, _, _ => (.error (.os errno), source)
  | none, [], some errno => (.error (.os errno), source)
  | none, content, _ =>
    (.ok (content.take (min room most)),
      { source with content := content.drop (min room most) })

/-- One read, asked for again while it is interrupted. -/
def readScheduled (source : Source) (room : Nat)
    : List ReadAnswer → Except IoError (List UInt8) × Source
  | [] => { source with schedule := [] }.deliver room room
  | .gives extra :: schedule =>
    { source with schedule := schedule }.deliver room (extra + 1)
  | .refuses errno :: schedule =>
    if errno.kind = .interrupted then readScheduled source room schedule
    else (.error (.os errno), { source with schedule := schedule })

def readSome (source : Source) (room : Nat) : Except IoError (List UInt8) × Source :=
  source.readScheduled room source.schedule

/-- What a reading call stored, how it ended, and the descriptor after it. -/
structure Outcome where
  stored : List UInt8
  result : Except IoError Unit
  source : Source

def Outcome.after (stored : List UInt8) (outcome : Outcome) : Outcome :=
  { outcome with stored := stored ++ outcome.stored }

/-- Fills `room` bytes completely. -/
def readExactly (source : Source) (room : Nat) : Noted Outcome :=
  if room = 0 then return ⟨[], .ok (), source⟩
  else
    match source.readSome room with
    | (.error error, after) => do
      .note ⟨.error, .descriptor,
        "could not read fd " ++ Digits.signedDecimal source.number ++ ": " ++ error.brief⟩
      return ⟨[], .error error, after⟩
    | (.ok [], after) => do
      .note ⟨.error, .descriptor,
        "read returned 0 bytes, likely EOF for fd " ++ Digits.signedDecimal source.number⟩
      return ⟨[], .error (.kind .unexpectedEof), after⟩
    | (.ok (byte :: bytes), after) => do
      let rest ← readExactly after (room - (bytes.length + 1))
      return rest.after (byte :: bytes)
termination_by room
decreasing_by omega

def newline : UInt8 := 0x0A

/-- Reads byte by byte up to a newline, which is taken but not stored, or until `room` bytes
are stored. -/
def readLine (source : Source) : (room : Nat) → Noted Outcome
  | 0 => return ⟨[], .ok (), source⟩
  | room + 1 =>
    match source.readSome 1 with
    | (.error error, after) => do
      .note ⟨.error, .descriptor,
        "could not read from fd " ++ Digits.signedDecimal source.number ++ ": "
          ++ error.brief⟩
      return ⟨[], .error error, after⟩
    | (.ok [], after) => return ⟨[], .ok (), after⟩
    | (.ok (byte :: _), after) =>
      if byte = newline then return ⟨[], .ok (), after⟩
      else do
        let rest ← readLine after room
        return rest.after [byte]

end Source

/-- The answers to repeated attempts to open something: the first that is not an
interruption counts. -/
def openRepeatedly {α : Type} (last : Except Errno α) : List Errno → Except Errno α
  | [] => last
  | errno :: more =>
    if errno.kind = .interrupted then openRepeatedly last more else .error errno

end CrashCapture.Descriptor
