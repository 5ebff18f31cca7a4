import CrashCapture.Stack.Frame

/-! The backtrace that a thread takes of itself, outside any fault. The live stack grows
down, so callers sit at higher addresses; a link that does not go up ends the walk, and so
no chain of records can make it loop.
-/

namespace CrashCapture.Stack

/-- The links of frame records from `fp` on: `skip` records are passed over, then at most
`capacity` return addresses are stored. -/
def ownFrames (memory : Memory) (fp : Address) (skip capacity : Nat) : List Address :=
  if capacity = 0 then []
  else
    match FrameRecord.read? memory fp with
    | none => []
    | some record =>
      if record.returnAddress.isNull then []
      else if _h : fp.toNat < record.previous.toNat then
        if 0 < skip then ownFrames memory record.previous (skip - 1) capacity
        else record.returnAddress :: ownFrames memory record.previous 0 (capacity - 1)
      else if 0 < skip then []
      else [record.returnAddress]
termination_by UInt64.size - fp.toNat
decreasing_by
  all_goals
    have := record.previous.value.toNat_lt_size
    simp only [Address.toNat] at *
    omega

end CrashCapture.Stack
