import CrashCapture.Memory.Regions
import CrashCapture.Stack.Chain
import CrashCapture.Stack.OwnThread

/-! What a thread finds on its own stack. A record leads on only to a record that lies above it,
so the chain of a thread's own records ends, whatever the memory holds. A walk stores the part
of that chain that is behind the skipped frames, as far as there is room.
-/

namespace CrashCapture.Stack

-----------------------------------------------------------------------------------------
-- The chain of rising records
-----------------------------------------------------------------------------------------

/-- The record at a frame pointer when it has a frame to tell of: the pointer is not null, the
record can be read, and its return address is not null.
-/
def FrameRecord.returning? (memory : Memory) (fp : Address) : Option FrameRecord :=
  (FrameRecord.read? memory fp).filter fun record => !record.returnAddress.isNull

/-- These are the return addresses of the chain of records from a frame pointer on. The chain
goes on to the record that is linked to only when that one lies above.
-/
inductive RisingChain (memory : Memory) : Address → List Address → Prop
  | ended {fp : Address} (absent : FrameRecord.returning? memory fp = none)
    : RisingChain memory fp []
  | last {fp : Address} {record : FrameRecord}
    (present : FrameRecord.returning? memory fp = some record)
    (level : record.previous.toNat ≤ fp.toNat)
    : RisingChain memory fp [record.returnAddress]
  | onward {fp : Address} {record : FrameRecord} {frames : List Address}
    (present : FrameRecord.returning? memory fp = some record)
    (rises : fp.toNat < record.previous.toNat)
    (rest : RisingChain memory record.previous frames)
    : RisingChain memory fp (record.returnAddress :: frames)

variable {memory : Memory} {fp : Address} {record : FrameRecord} {frames : List Address}

/-- Every frame pointer has a chain. Each record lies further up than the one before it, and
there is no room for that above the last address. By induction on what is left above.
-/
theorem exists_risingChain (memory : Memory) (fp : Address)
    : ∃ frames, RisingChain memory fp frames := by
  generalize left : UInt64.size - fp.toNat = room
  induction room using Nat.strongRecOn generalizing fp with
  | ind room ih =>
      cases found : FrameRecord.returning? memory fp with
      | none => exact ⟨[], .ended found⟩
      | some record =>
          by_cases rises : fp.toNat < record.previous.toNat
          · have top : record.previous.toNat < UInt64.size :=
              record.previous.value.toNat_lt_size
            obtain ⟨frames, rest⟩ := ih _ (by omega) record.previous rfl
            exact ⟨_, .onward found rises rest⟩
          · exact ⟨_, .last found (Nat.le_of_not_lt rises)⟩

/-- Each record decides by itself how the chain goes on, so there is only one. -/
theorem RisingChain.unique {others : List Address} (chain : RisingChain memory fp frames)
    (other : RisingChain memory fp others)
    : others = frames := by
  induction chain generalizing others with
  | ended absent =>
      cases other with
      | ended => rfl
      | last found _ | onward found _ _ => exact nomatch absent.symm.trans found
  | last present level =>
      cases other with
      | ended absent => exact nomatch absent.symm.trans present
      | last found _ =>
          obtain rfl := Option.some.inj (present.symm.trans found)
          rfl
      | onward found rises _ =>
          obtain rfl := Option.some.inj (present.symm.trans found)
          exact absurd rises (Nat.not_lt.mpr level)
  | onward present rises _ ih =>
      cases other with
      | ended absent => exact nomatch absent.symm.trans present
      | last found level =>
          obtain rfl := Option.some.inj (present.symm.trans found)
          exact absurd rises (Nat.not_lt.mpr level)
      | onward found _ rest =>
          obtain rfl := Option.some.inj (present.symm.trans found)
          rw [ih rest]

/-- A chain has no more frames than there are addresses from its start on. -/
theorem RisingChain.length_le (chain : RisingChain memory fp frames)
    : frames.length ≤ UInt64.size - fp.toNat := by
  induction chain with
  | ended => exact Nat.zero_le _
  | @last fp _ _ _ =>
      have top : fp.toNat < UInt64.size := fp.value.toNat_lt_size
      simp only [List.length_singleton]
      omega
  | @onward fp _ _ _ rises _ ih =>
      have top : fp.toNat < UInt64.size := fp.value.toNat_lt_size
      simp only [List.length_cons]
      omega

-----------------------------------------------------------------------------------------
-- The walk
-----------------------------------------------------------------------------------------

/-- A record is returning when it can be read and has an address to return to. -/
theorem FrameRecord.returning?_eq_some_iff
    : FrameRecord.returning? memory fp = some record
      ↔ FrameRecord.read? memory fp = some record ∧ record.returnAddress.isNull = false := by
  rw [returning?, Option.filter_eq_some_iff, Bool.not_eq_true']

/-- Without a record to tell of there is none, or its return address is null. -/
theorem FrameRecord.null_of_returning?_eq_none (absent : FrameRecord.returning? memory fp = none)
    (found : FrameRecord.read? memory fp = some record)
    : record.returnAddress.isNull = true := by
  simpa [returning?, found, Option.filter_some] using absent

/-- Without room nothing is stored. -/
theorem ownFrames_full (memory : Memory) (fp : Address) (skip : Nat)
    : ownFrames memory fp skip 0 = [] := by
  rw [ownFrames, if_pos rfl]

/-- Without a record to return from nothing is stored. -/
theorem ownFrames_of_none (absent : FrameRecord.returning? memory fp = none)
    (skip capacity : Nat)
    : ownFrames memory fp skip capacity = [] := by
  rw [ownFrames]
  split
  · rfl
  · split
    · rfl
    · rename_i record found
      rw [if_pos (FrameRecord.null_of_returning?_eq_none absent found)]

section Record

variable (present : FrameRecord.returning? memory fp = some record)
include present

/-- A frame that is skipped is passed over, as long as the chain rises. -/
theorem ownFrames_skip (skip capacity : Nat)
    : ownFrames memory fp (skip + 1) (capacity + 1)
      = if fp.toNat < record.previous.toNat
        then ownFrames memory record.previous skip (capacity + 1)
        else [] := by
  obtain ⟨found, returns⟩ := FrameRecord.returning?_eq_some_iff.mp present
  rw [ownFrames, if_neg (Nat.succ_ne_zero capacity), found]
  simp [returns]

/-- A frame that is not skipped is stored, and the rest follows as long as the chain rises. -/
theorem ownFrames_store (capacity : Nat)
    : ownFrames memory fp 0 (capacity + 1)
      = record.returnAddress
        :: if fp.toNat < record.previous.toNat
          then ownFrames memory record.previous 0 capacity
          else [] := by
  obtain ⟨found, returns⟩ := FrameRecord.returning?_eq_some_iff.mp present
  rw [ownFrames, if_neg (Nat.succ_ne_zero capacity), found]
  by_cases rises : fp.toNat < record.previous.toNat <;> simp [returns, rises]

end Record

/-- A walk stores the front of what the chain has behind the skipped frames, by induction along
the chain.
-/
theorem RisingChain.ownFrames_eq (chain : RisingChain memory fp frames) (skip capacity : Nat)
    : ownFrames memory fp skip capacity = (frames.drop skip).take capacity := by
  induction chain generalizing skip capacity with
  | ended absent => rw [ownFrames_of_none absent, List.drop_nil, List.take_nil]
  | last present level =>
      have stays := Nat.not_lt.mpr level
      rcases capacity with _ | capacity
      · rw [ownFrames_full, List.take_zero]
      rcases skip with _ | skip
      · simp [ownFrames_store present, stays]
      · simp [ownFrames_skip present, stays]
  | onward present rises _ ih =>
      rcases capacity with _ | capacity
      · rw [ownFrames_full, List.take_zero]
      rcases skip with _ | skip
      · rw [ownFrames_store present, if_pos rises, ih, List.drop_zero, List.drop_zero,
          List.take_succ_cons]
      · rw [ownFrames_skip present, if_pos rises, ih, List.drop_succ_cons]

-----------------------------------------------------------------------------------------
-- The loop of a walk
-----------------------------------------------------------------------------------------

/-- Where the loop of a walk stands: the frame pointer it reads at next, how many frames it has
passed over, and what it has stored.
-/
structure Capture where
  fp : Address
  skipped : Nat := 0
  stored : List Address := []
deriving DecidableEq, Repr

namespace Capture

/-- Passes a frame over as long as some are to be skipped, and stores it after that. -/
def count (skip : Nat) (capture : Capture) (address : Address) : Capture :=
  if capture.skipped < skip then { capture with skipped := capture.skipped + 1 }
  else { capture with stored := capture.stored ++ [address] }

/-- One turn of the loop, and whether another one follows. -/
def turn (memory : Memory) (skip capacity : Nat) (capture : Capture) : Capture × Bool :=
  if capture.stored.length < capacity then
    match FrameRecord.read? memory capture.fp with
    | none => (capture, false)
    | some record =>
      if record.returnAddress.isNull then (capture, false)
      else
        let counted := capture.count skip record.returnAddress
        if record.previous.toNat ≤ capture.fp.toNat then (counted, false)
        else ({ counted with fp := record.previous }, true)
  else (capture, false)

/-- What is stored when the loop ends; none as long as it has not ended. -/
def run (memory : Memory) (skip capacity : Nat) : (turns : Nat) → Capture → Option (List Address)
  | 0, _ => none
  | turns + 1, capture =>
    match capture.turn memory skip capacity with
    | (after, false) => some after.stored
    | (after, true) => run memory skip capacity turns after

/-- What is to be stored in the end when these frames are still ahead. -/
def outcome (skip capacity : Nat) (capture : Capture) (frames : List Address) : List Address :=
  capture.stored
    ++ (frames.drop (skip - capture.skipped)).take (capacity - capture.stored.length)

/-- How many more frames the loop would take. -/
def wanted (skip capacity : Nat) (capture : Capture) : Nat :=
  (skip - capture.skipped) + (capacity - capture.stored.length)

variable {skip capacity : Nat} {capture : Capture}

/-- The loop stops when there is no room. -/
theorem turn_of_full (memory : Memory) (full : capacity ≤ capture.stored.length)
    : capture.turn memory skip capacity = (capture, false) := by
  rw [turn, if_neg (Nat.not_lt.mpr full)]

/-- The loop stops where no record is returning. -/
theorem turn_of_none (absent : FrameRecord.returning? memory capture.fp = none)
    : capture.turn memory skip capacity = (capture, false) := by
  rw [turn]
  split
  · split
    · rfl
    · rename_i record found
      rw [if_pos (FrameRecord.null_of_returning?_eq_none absent found)]
  · rfl

/-- A record is counted, and the loop goes on where the chain rises. -/
theorem turn_of_record (room : capture.stored.length < capacity)
    (present : FrameRecord.returning? memory capture.fp = some record)
    : capture.turn memory skip capacity
      = if record.previous.toNat ≤ capture.fp.toNat
        then (capture.count skip record.returnAddress, false)
        else ({ capture.count skip record.returnAddress with fp := record.previous }, true) := by
  obtain ⟨found, returns⟩ := FrameRecord.returning?_eq_some_iff.mp present
  simp [turn, room, found, returns]

/-- With no room left what is stored is the outcome. -/
theorem outcome_of_full (full : capacity ≤ capture.stored.length) (frames : List Address)
    : capture.outcome skip capacity frames = capture.stored := by
  rw [outcome, Nat.sub_eq_zero_of_le full, List.take_zero, List.append_nil]

/-- A frame that is counted is the first of those ahead. -/
theorem outcome_count (room : capture.stored.length < capacity) (address : Address)
    (frames : List Address)
    : (capture.count skip address).outcome skip capacity frames
      = capture.outcome skip capacity (address :: frames) := by
  obtain ⟨more, left⟩ := Nat.exists_eq_add_of_lt room
  unfold count outcome
  split
  next skipping =>
    obtain ⟨further, ahead⟩ := Nat.exists_eq_add_of_lt skipping
    have before : skip - capture.skipped = further + 1 := by omega
    have after : skip - (capture.skipped + 1) = further := by omega
    simp only [before, after, List.drop_succ_cons]
  next storing =>
    have none : skip - capture.skipped = 0 := by omega
    have before : capacity - capture.stored.length = more + 1 := by omega
    have after : capacity - (capture.stored ++ [address]).length = more := by
      rw [List.length_append, List.length_singleton]
      omega
    simp only [none, before, after, List.drop_zero, List.take_succ_cons, List.append_assoc,
      List.singleton_append]

/-- Each frame that is counted leaves one less to be wanted. -/
theorem wanted_count (room : capture.stored.length < capacity) (address : Address)
    : (capture.count skip address).wanted skip capacity + 1 = capture.wanted skip capacity := by
  unfold count wanted
  split
  · dsimp only
    omega
  · simp only [List.length_append, List.length_singleton]
    omega

/-- The loop ends when the chain does or when it has taken all the frames it wants, and then it
has stored the outcome. By induction along the chain, each turn taking one frame.
-/
theorem run_eq {turns : Nat} (chain : RisingChain memory capture.fp frames)
    (enough : min frames.length (capture.wanted skip capacity) < turns)
    : capture.run memory skip capacity turns = some (capture.outcome skip capacity frames) := by
  generalize start : capture.fp = fp at chain
  induction chain generalizing capture turns with
  | ended absent =>
      obtain ⟨turns, rfl⟩ := Nat.exists_eq_succ_of_ne_zero (Nat.ne_zero_of_lt enough)
      rw [run, turn_of_none (start ▸ absent), outcome, List.drop_nil, List.take_nil,
        List.append_nil]
  | last present level =>
      obtain ⟨turns, rfl⟩ := Nat.exists_eq_succ_of_ne_zero (Nat.ne_zero_of_lt enough)
      rcases Nat.lt_or_ge capture.stored.length capacity with room | full
      · rw [run, turn_of_record room (start ▸ present), if_pos (start ▸ level),
          ← outcome_count room, outcome, List.drop_nil, List.take_nil, List.append_nil]
      · rw [run, turn_of_full memory full, outcome_of_full full]
  | @onward fp record rest present rises _ ih =>
      obtain ⟨turns, rfl⟩ := Nat.exists_eq_succ_of_ne_zero (Nat.ne_zero_of_lt enough)
      rcases Nat.lt_or_ge capture.stored.length capacity with room | full
      · have fewer
            : (capture.count skip record.returnAddress).wanted skip capacity + 1
              = capture.wanted skip capacity :=
          wanted_count room record.returnAddress
        have left
            : min rest.length
                ((capture.count skip record.returnAddress).wanted skip capacity) < turns := by
          rw [List.length_cons] at enough
          omega
        rw [run, turn_of_record room (start ▸ present), if_neg (start ▸ Nat.not_le.mpr rises),
          ← outcome_count room]
        exact ih left rfl
      · rw [run, turn_of_full memory full, outcome_of_full full]

end Capture

/-- Whatever the memory holds, there is one chain of records from a frame pointer on, and it is
finite. The loop of a walk ends, after no more turns than there are frames in the chain or
frames asked for and one, and it has stored what the chain has behind the skipped frames, as
much as there is room for. So to skip more drops frames at the front, whether or not others come
into the room that this leaves, and to have less room drops frames at the end.
-/
theorem ownFrames_front_of_rising_chain (memory : Memory) (fp : Address)
    : ∃ frames,
        (∀ others, RisingChain memory fp others ↔ others = frames)
        ∧ frames.length ≤ UInt64.size - fp.toNat
        ∧ ∀ skip capacity,
            ownFrames memory fp skip capacity = (frames.drop skip).take capacity
            ∧ (∀ spare,
                Capture.run memory skip capacity
                    (min frames.length (skip + capacity) + 1 + spare) { fp := fp }
                  = some (ownFrames memory fp skip capacity))
            ∧ (∀ more,
                ownFrames memory fp (skip + more) capacity
                  = (ownFrames memory fp skip (more + capacity)).drop more
                ∧ (ownFrames memory fp skip capacity).drop more
                    <+: ownFrames memory fp (skip + more) capacity)
            ∧ ∀ less,
                ownFrames memory fp skip (min less capacity)
                  = (ownFrames memory fp skip capacity).take less := by
  obtain ⟨frames, chain⟩ := exists_risingChain memory fp
  refine ⟨frames, fun others => ⟨chain.unique, fun same => same ▸ chain⟩, chain.length_le,
    fun skip capacity => ⟨chain.ownFrames_eq skip capacity, fun spare => ?_,
      fun more => ⟨?_, ?_⟩, fun less => ?_⟩⟩
  · have enough
        : min frames.length (skip + capacity)
          < min frames.length (skip + capacity) + 1 + spare := by
      omega
    rw [Capture.run_eq chain enough, chain.ownFrames_eq]
    rfl
  · rw [chain.ownFrames_eq, chain.ownFrames_eq, List.drop_take, List.drop_drop,
      Nat.add_sub_cancel_left]
  · rw [chain.ownFrames_eq, chain.ownFrames_eq, List.drop_take, List.drop_drop]
    exact List.take_prefix_take_left (Nat.sub_le _ _)
  · rw [chain.ownFrames_eq, chain.ownFrames_eq, List.take_take]

/-- Of two records that link to each other, each is found once. -/
example
    : let records := wordBytes 0x1010 ++ wordBytes 0x4000 ++ wordBytes 0x1000 ++ wordBytes 0x4010
      Capture.run (.ofRegions [⟨0x1000, records.toArray⟩]) 0 100 2 { fp := .ofNat 0x1000 }
        = some [.ofNat 0x4000, .ofNat 0x4010] := by
  decide +kernel

end CrashCapture.Stack
