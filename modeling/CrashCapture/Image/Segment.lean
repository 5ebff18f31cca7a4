import CrashCapture.Image.Command

/-! Segments of an image and their sections. An image says how many sections a segment has;
that is never trusted beyond what the segment's command can hold.
-/

namespace CrashCapture.Image

/-- Compares a name stored in sixteen bytes, padded with zeros. -/
def hasFixedName (field : List UInt8) (name : String) : Bool :=
  field.takeWhile (· ≠ 0) = Text.bytes name

/-- A segment at its linked address. -/
structure Segment where
  name : List UInt8
  vmAddress : UInt64
  vmSize : UInt64
  fileOffset : UInt64
  width : Width
  sectionCount : Nat
  sections : Address
deriving DecidableEq, Repr

/-- A section at its linked address. -/
structure Section where
  name : List UInt8
  address : UInt64
  size : UInt64
deriving DecidableEq, Repr

namespace Segment

def headerSize : Width → Nat
  | .narrow => 56
  | .wide => 72

def sectionSize : Width → Nat
  | .narrow => 68
  | .wide => 80

/-- The width of a segment command; none for other commands. -/
def widthOf? (command : Command) : Option Width :=
  if command.kind = Command.segmentWide then some .wide
  else if command.kind = Command.segment then some .narrow
  else none

/-- Where the four addresses of a segment command end and the count of sections stands. -/
def countOffset : Width → Nat
  | .narrow => 48
  | .wide => 64

def ofRecord (command : Command) (width : Width) (record : List UInt8) : Segment :=
  let word (index : Nat) : UInt64 :=
    .ofNat (Memory.field record (24 + index * width.word) width.word)
  let room := (command.size - headerSize width) / sectionSize width
  { name := (record.drop 8).take 16
    vmAddress := word 0
    vmSize := word 1
    fileOffset := word 2
    width := width
    sectionCount := min (Memory.field record (countOffset width) 4) room
    sections := command.address.advance (headerSize width) }

/-- The segment that a command describes. -/
def read? (memory : Memory) (command : Command) : Option Segment :=
  match widthOf? command with
  | none => none
  | some width =>
    (command.record? memory (headerSize width)).map (ofRecord command width)

def isNamed (segment : Segment) (name : String) : Bool := hasFixedName segment.name name

/-- Whether a linked address falls into the segment. -/
def contains (segment : Segment) (address : UInt64) : Bool :=
  segment.vmAddress ≤ address && address - segment.vmAddress < segment.vmSize

def sectionAt? (memory : Memory) (segment : Segment) (index : Nat) : Option Section :=
  let address := segment.sections.advance (index * sectionSize segment.width)
  (memory.read? address (sectionSize segment.width)).map fun record =>
    let word := segment.width.word
    { name := record.take 16
      address := .ofNat (Memory.field record 32 word)
      size := .ofNat (Memory.field record (32 + word) word) }

/-- The first section of that name; records that cannot be read are passed over. -/
def findSection? (memory : Memory) (segment : Segment) (name : String) : Option Section :=
  (List.range segment.sectionCount).findSome? fun index =>
    (segment.sectionAt? memory index).filter fun found => hasFixedName found.name name

end Segment

/-- Whether one of the image's segments covers a linked address. -/
def segmentContains (memory : Memory) (header : Header) (address : UInt64)
    : Log.Noted Bool := do
  let found ← (Commands.ofHeader memory header).findSome? fun command =>
    return (Segment.read? memory command).filter (·.contains address)
  return found.isSome

/-- The linked address of the start of the file: what offsets into the file, such as those
of the symbol table, are counted from. -/
def fileBase? (memory : Memory) (header : Header) : Log.Noted (Option UInt64) := do
  let found ← (Commands.ofHeader memory header).findSome? fun command =>
    return (Segment.read? memory command).filter (·.isNamed "__LINKEDIT")
  return found.map fun segment => segment.vmAddress - segment.fileOffset

end CrashCapture.Image
