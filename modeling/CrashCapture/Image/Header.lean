import CrashCapture.Log.Notice
import CrashCapture.Memory.Reader

/-! The header of a loaded Mach-O image, as it stands in memory. Only headers in the byte
order of the machine are taken; any other first word marks a corrupt image.
-/

namespace CrashCapture.Image

/-- The width of the addresses in an image's tables. -/
inductive Width where
  | narrow
  | wide
deriving DecidableEq, Repr

namespace Width

def headerSize : Width → Nat
  | .narrow => 28
  | .wide => 32

/-- How many bytes an address has. -/
def word : Width → Nat
  | .narrow => 4
  | .wide => 8

end Width

/-- What a header says of its image. -/
structure Header where
  address : Address
  width : Width
  cpuType : Nat
  cpuSubtype : Nat
  commandCount : Nat
  commandBytes : Nat
deriving DecidableEq, Repr

namespace Header

def magicNarrow : Nat := 0xFEEDFACE

def magicWide : Nat := 0xFEEDFACF

def readAs? (memory : Memory) (address : Address) (width : Width) : Option Header :=
  (memory.read? address width.headerSize).map fun record =>
    { address := address
      width := width
      cpuType := Memory.field record 4 4
      cpuSubtype := Memory.field record 8 4
      commandCount := Memory.field record 16 4
      commandBytes := Memory.field record 20 4 }

/-- Reads the header at an address. -/
def read? (memory : Memory) (address : Address) : Log.Noted (Option Header) :=
  match memory.number? address 4 with
  | none => return none
  | some magic =>
    if magic = magicWide then return readAs? memory address .wide
    else if magic = magicNarrow then return readAs? memory address .narrow
    else do
      .note ⟨.trace, .imageWalk,
        "header at " ++ address.text ++ " is corrupt (magic 0x" ++ Digits.hex magic ++ ")"⟩
      return none

/-- Where the load commands start. -/
def firstCommand (header : Header) : Address :=
  header.address.advance header.width.headerSize

end Header

end CrashCapture.Image
