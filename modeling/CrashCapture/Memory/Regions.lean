import CrashCapture.Memory.Reader

/-! Memory given as a list of regions. A byte belongs to the first region that holds it, and
adjacent regions join up; a read succeeds when every one of its bytes is in a region.
-/

namespace CrashCapture.Memory

structure Region where
  start : Nat
  data : Array UInt8
deriving Repr

namespace Region

def byte? (region : Region) (position : Nat) : Option UInt8 :=
  if region.start ≤ position then region.data[position - region.start]? else none

/-- Whether the region has a byte on the page. -/
def touches (region : Region) (page : Nat) : Bool :=
  0 < region.data.size && region.start / pageSize ≤ page
    && page ≤ (region.start + region.data.size - 1) / pageSize

end Region

def regionByte? (regions : List Region) (position : Nat) : Option UInt8 :=
  regions.findSome? (Region.byte? · position)

def regionBytes? (regions : List Region) : (position count : Nat) → Option (List UInt8)
  | _, 0 => some []
  | position, count + 1 =>
    match regionByte? regions position with
    | none => none
    | some byte => (regionBytes? regions (position + 1) count).map (byte :: ·)

theorem length_regionBytes (regions : List Region) (position count : Nat)
    (bytes : List UInt8) (h : regionBytes? regions position count = some bytes)
    : bytes.length = count := by
  induction count generalizing position bytes with
  | zero => simp_all [regionBytes?]
  | succ count ih =>
      simp only [regionBytes?] at h
      split at h
      · cases h
      · obtain ⟨rest, hr, rfl⟩ := Option.map_eq_some_iff.mp h
        simp [ih _ _ hr]

/-- Readability is decided for every byte by itself, and nothing lies beyond 2^64. -/
def ofRegions (regions : List Region) : Memory where
  read? address count :=
    if count = 0 then some []
    else if address.toNat + count ≤ UInt64.size then regionBytes? regions address.toNat count
    else none
  length_read := by
    intro address count bytes h
    split at h
    · cases h; simp_all
    · split at h
      · exact length_regionBytes _ _ _ _ h
      · cases h

end CrashCapture.Memory
