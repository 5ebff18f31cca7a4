import CrashCapture.Errno
import CrashCapture.Memory.Regions

/-! The memory of the running process, read through the kernel. A direct copy between
address spaces is tried first; where it is refused, the bytes go through a pipe, a page's
worth at a time. Protection is per page, so both routes agree.
-/

namespace CrashCapture.Memory

/-- Memory as the kernel holds it: which pages may be read, and what stands in them. -/
structure Pages where
  readable : Nat → Bool
  byte : Nat → UInt8

namespace Pages

/-- The length of the longest readable stretch from `start` on, up to `count` bytes. -/
def extent (pages : Pages) (start count : Nat) : Nat :=
  if count = 0 then 0
  else if pages.readable (start / pageSize) then
    let left := pageSize - start % pageSize
    if count ≤ left then count else left + extent pages (start + left) (count - left)
  else 0
termination_by count
decreasing_by
  have : start % pageSize < pageSize := Nat.mod_lt _ (by simp [pageSize])
  omega

def slice (pages : Pages) (start count : Nat) : List UInt8 :=
  (List.range count).map (fun i => pages.byte (start + i))

/-- What one transfer by the kernel moves: the longest readable stretch. -/
def transfer (pages : Pages) (start count : Nat) : List UInt8 :=
  pages.slice start (pages.extent start count)

/-- Every page that a region touches, zero where no region has a byte. -/
def ofRegions (regions : List Region) : Pages where
  readable page := page < UInt64.size / pageSize && regions.any (Region.touches · page)
  byte position := (regionByte? regions position).getD 0

end Pages

/-- What the kernel moves when it is asked for a range of bytes: straight into a buffer, or
into an empty pipe. It may move less than all of them. -/
structure Kernel where
  direct : (start count : Nat) → List UInt8
  toPipe : (start count : Nat) → List UInt8

/-- The kernel that moves all it can. A range that passes the end of the address space is
refused for a direct copy. -/
def Pages.kernel (pages : Pages) : Kernel where
  direct start count :=
    if start + count ≤ UInt64.size then pages.transfer start count else []
  toPipe := pages.transfer

/-- Which of the system calls behind a copy are refused. -/
structure CopyFaults where
  direct : Option Errno := none
  pipeOpen : Bool := false
  pipeRead : Bool := false
deriving Repr, DecidableEq

/-- The bytes a pipe takes at once without blocking. -/
def pipePiece : Nat := 4096

/-- A transfer that moved all that was asked for, else nothing. -/
def complete? (count : Nat) (bytes : List UInt8) : Option (List UInt8) :=
  if bytes.length = count then some bytes else none

/-- The copy through a pipe: every piece is written from the source and read back, and the
first that does not move whole ends the copy. -/
def throughPipe? (faults : CopyFaults) (kernel : Kernel) (start count : Nat)
    : Option (List UInt8) :=
  if count = 0 then some []
  else
    let piece := min count pipePiece
    match complete? piece (kernel.toPipe start piece) with
    | none => none
    | some bytes =>
      if faults.pipeRead then none
      else
        (throughPipe? faults kernel ((start + piece) % UInt64.size) (count - piece)).map
          (bytes ++ ·)
termination_by count
decreasing_by simp only [pipePiece]; omega

/-- Opens the pipe, unless that is refused, and copies through it. -/
def copyThroughPipe? (faults : CopyFaults) (kernel : Kernel) (start count : Nat)
    : Option (List UInt8) :=
  if faults.pipeOpen then none else throughPipe? faults kernel start count

/-- Refusals that mean the direct copy will never work here. -/
def directUnavailable (errno : Errno) : Bool :=
  errno = Errno.notPermitted || errno = Errno.noSystemCall

/-- One copy from `start`; `pipeOnly` remembers that the direct way was found to be
unavailable. -/
def copyLive? (faults : CopyFaults) (kernel : Kernel) (pipeOnly : Bool) (start count : Nat)
    : Option (List UInt8) × Bool :=
  if count = 0 then (some [], pipeOnly)
  else if pipeOnly then (copyThroughPipe? faults kernel start count, true)
  else
    match faults.direct with
    | none => (complete? count (kernel.direct start count), false)
    | some errno =>
      if directUnavailable errno then (copyThroughPipe? faults kernel start count, true)
      else (none, false)

/-- One read of live memory: null is never readable, except for no bytes at all. -/
def readLive? (faults : CopyFaults) (kernel : Kernel) (pipeOnly : Bool) (address : Address)
    (count : Nat)
    : Option (List UInt8) × Bool :=
  if address.isNull then (if count = 0 then some [] else none, pipeOnly)
  else copyLive? faults kernel pipeOnly address.toNat count

theorem length_complete {count : Nat} {bytes moved : List UInt8}
    (h : complete? count moved = some bytes)
    : bytes.length = count := by
  unfold complete? at h
  split at h
  · cases h; assumption
  · cases h

theorem length_throughPipe (faults : CopyFaults) (kernel : Kernel) (start count : Nat)
    (bytes : List UInt8) (h : throughPipe? faults kernel start count = some bytes)
    : bytes.length = count := by
  induction count using Nat.strongRecOn generalizing start bytes with
  | ind count ih =>
      unfold throughPipe? at h
      split at h
      · cases h; simp_all
      · rename_i hc
        simp only at h
        split at h
        · cases h
        · rename_i moved hm
          split at h
          · cases h
          · obtain ⟨rest, hr, rfl⟩ := Option.map_eq_some_iff.mp h
            have hl := length_complete hm
            have hp : min count pipePiece ≤ count := Nat.min_le_left _ _
            have hq : 0 < min count pipePiece := by simp only [pipePiece]; omega
            rw [List.length_append, hl, ih _ (by omega) _ _ hr]
            omega

theorem length_copyThroughPipe (faults : CopyFaults) (kernel : Kernel) (start count : Nat)
    (bytes : List UInt8) (h : copyThroughPipe? faults kernel start count = some bytes)
    : bytes.length = count := by
  unfold copyThroughPipe? at h
  split at h
  · cases h
  · exact length_throughPipe faults kernel start count bytes h

theorem length_copyLive (faults : CopyFaults) (kernel : Kernel) (pipeOnly : Bool)
    (start count : Nat) (bytes : List UInt8)
    (h : (copyLive? faults kernel pipeOnly start count).1 = some bytes)
    : bytes.length = count := by
  unfold copyLive? at h
  split at h
  · cases h; simp_all
  · split at h
    · exact length_copyThroughPipe faults kernel start count bytes h
    · split at h
      · exact length_complete h
      · split at h
        · exact length_copyThroughPipe faults kernel start count bytes h
        · cases h

theorem length_readLive (faults : CopyFaults) (kernel : Kernel) (pipeOnly : Bool)
    (address : Address) (count : Nat) (bytes : List UInt8)
    (h : (readLive? faults kernel pipeOnly address count).1 = some bytes)
    : bytes.length = count := by
  unfold readLive? at h
  split at h
  · simp only at h
    split at h
    · cases h; simp_all
    · cases h
  · exact length_copyLive faults kernel pipeOnly address.toNat count bytes h

/-- Live memory when the same calls are refused throughout. -/
def live (faults : CopyFaults) (pages : Pages) : Memory where
  read? address count := (readLive? faults pages.kernel false address count).1
  length_read _ _ _ h := length_readLive _ _ _ _ _ _ h

end CrashCapture.Memory
