import CrashCapture.Memory.Reader

/-! Texts in the memory of an image, which end at a zero byte. They are found first and
copied out later, so nothing of an image is held on to.
-/

namespace CrashCapture.Image

/-- Where a text was found, and how long it was. -/
structure StoredText where
  address : Address
  length : Nat
deriving DecidableEq, Repr

namespace StoredText

/-- The most bytes that are looked at in one read. -/
def chunkSize : Nat := 64

def chunkAt (at_ : Address) (left : Nat) : Nat :=
  min (min chunkSize left) (Memory.pageSize - at_.toNat % Memory.pageSize)

theorem chunkAt_pos (at_ : Address) (left : Nat) (h : 0 < left)
    : 0 < chunkAt at_ left := by
  have hp : at_.toNat % Memory.pageSize < Memory.pageSize := Nat.mod_lt _ (by decide)
  have hc : 0 < chunkSize := by decide
  unfold chunkAt
  omega

/-- Looks for the zero byte, `offset` bytes of the text being known to hold none. Reads end
at page boundaries, so a page that cannot be read does not hide a text that ends before
it. -/
def findFrom? (memory : Memory) (address : Address) (limit offset : Nat)
    : Option StoredText :=
  if _h : offset < limit then
    let at_ := address.advance offset
    let size := chunkAt at_ (limit - offset)
    match memory.read? at_ size with
    | none => none
    | some chunk =>
      match chunk.findIdx? (· = 0) with
      | some index => some { address := address, length := offset + index }
      | none => findFrom? memory address limit (offset + size)
  else none
termination_by limit - offset
decreasing_by
  have := chunkAt_pos (address.advance offset) (limit - offset) (by omega)
  omega

/-- The text at an address, when it ends within `limit` readable bytes. -/
def find? (memory : Memory) (address : Address) (limit : Nat) : Option StoredText :=
  if address.isNull then none else findFrom? memory address limit 0

/-- The text without its first `count` bytes. -/
def skip (text : StoredText) (count : Nat) : StoredText where
  address := text.address.advance (min count text.length)
  length := text.length - count

/-- Removes one underscore at the start. -/
def withoutUnderscore (memory : Memory) (text : StoredText) : StoredText :=
  if text.length ≠ 0 && memory.read? text.address 1 = some [0x5F] then text.skip 1 else text

/-- Copies the text into a buffer of `capacity` bytes, the zero at the end included; none
when there is no room even for that, or the bytes are gone. -/
def read? (memory : Memory) (text : StoredText) (capacity : Nat) : Option (List UInt8) :=
  if capacity = 0 then none
  else
    let count := min text.length (capacity - 1)
    if count = 0 then some []
    else (memory.read? text.address count).map (·.takeWhile (· ≠ 0))

end StoredText

end CrashCapture.Image
