import CrashCapture.Address

/-! Validated access to process memory. A memory answers a read with exactly the bytes asked
for or not at all; everything else here is built on that one question.
-/

namespace CrashCapture

/-- Memory that is read through the kernel: an unreadable range is an answer, not a fault. -/
structure Memory where
  read? : Address → Nat → Option (List UInt8)
  length_read : ∀ address count bytes, read? address count = some bytes → bytes.length = count

namespace Memory

/-- Protection is decided for pages of this many bytes. -/
def pageSize : Nat := 4096

/-- How many bytes one probe for readability covers. -/
def probeSize : Nat := 256

/-- Whether `count` bytes from `address` on can be read, probed piece by piece. -/
def isReadable (memory : Memory) (address : Address) (count : Nat) : Bool :=
  if count = 0 then true
  else
    let piece := min count probeSize
    (memory.read? address piece).isSome
      && isReadable memory (address.advance piece) (count - piece)
termination_by count
decreasing_by simp only [probeSize]; omega

def hasByte (memory : Memory) (address : Address) : Bool := (memory.read? address 1).isSome

/-- From the page boundary `next` on, the first page start below `stop` that cannot be
read. -/
def firstUnreadablePage? (memory : Memory) (next stop : Nat) : Option Nat :=
  if next < stop then
    if memory.hasByte (Address.ofNat next) then
      firstUnreadablePage? memory (next + pageSize) stop
    else some next
  else none
termination_by stop - next
decreasing_by simp only [pageSize]; omega

/-- How many bytes, at most `count`, can be read from `address` on. The first byte and the
first byte of every later page are tried; the end of the range stays inside the address
space. -/
def readableExtent (memory : Memory) (address : Address) (count : Nat) : Nat :=
  if count = 0 || !memory.hasByte address then 0
  else
    let start := address.toNat
    let stop := min (start + count) (UInt64.size - 1)
    match memory.firstUnreadablePage? ((start / pageSize + 1) * pageSize) stop with
    | some page => page - start
    | none => count

/-- The number whose bytes are given with the least significant first. -/
def littleEndian : List UInt8 → Nat
  | [] => 0
  | byte :: rest => byte.toNat + 256 * littleEndian rest

/-- The number stored in `width` bytes at `address`. -/
def number? (memory : Memory) (address : Address) (width : Nat) : Option Nat :=
  (memory.read? address width).map littleEndian

def word? (memory : Memory) (address : Address) : Option UInt64 :=
  (memory.number? address 8).map UInt64.ofNat

/-- The number in `width` bytes of a record, from `offset` on. -/
def field (record : List UInt8) (offset width : Nat) : Nat :=
  littleEndian ((record.drop offset).take width)

end Memory

end CrashCapture
