import CrashCapture.Proofs.Image.CommandArea
import CrashCapture.Proofs.Image.Survey
import CrashCapture.Proofs.Memory.Rearranged
import Mathlib.Data.List.Basic

/-! Load commands that are copied to other places. A command says at its new address what it said
where it was, the sections of a segment included, and a walk over commands that stand one behind
the other finds them wherever they came from.
-/

namespace CrashCapture.Image

variable {before after : Memory} {width : Width} {address stop : Address}

-----------------------------------------------------------------------------------------
-- One command at another place
-----------------------------------------------------------------------------------------

/-- All that stands in a command is found at another address. -/
def Command.CopiedTo (before after : Memory) (command : Command) (address : Address) : Prop :=
  ∀ offset count,
    0 < count
    → offset + count ≤ command.size
    → after.read? (address.advance offset) count
      = before.read? (command.address.advance offset) count

variable {command : Command}

/-- The start of a command that was copied is read at the other address. -/
theorem Command.CopiedTo.start (copied : command.CopiedTo before after address) {count : Nat}
    (positive : 0 < count) (within : count ≤ command.size)
    : after.read? address count = before.read? command.address count := by
  have same := copied 0 count positive (by omega)
  rwa [Address.advance_zero, Address.advance_zero] at same

theorem Command.CopiedTo.record? (copied : command.CopiedTo before after address) {count : Nat}
    (positive : 0 < count)
    : { command with address }.record? after count = command.record? before count := by
  unfold Command.record?
  split
  case isTrue => rfl
  case isFalse long => exact copied.start positive (Nat.le_of_not_lt long)

/-- A command is found where it was copied to, when there is room for it. -/
theorem Command.CopiedTo.at? (copied : command.CopiedTo before after address)
    (stored : command.Stored before) (room : address.toNat + command.size ≤ stop.toNat)
    : Command.at? after address stop = some { command with address } := by
  obtain ⟨record, read, kind, size⟩ := stored.record
  have copy := copied.start (by decide) stored.sized
  have fits : minimalSize ≤ Memory.field record 4 4
      ∧ min (address.toNat + Memory.field record 4 4) (UInt64.size - 1) ≤ stop.toNat := by
    rw [← size]
    exact ⟨stored.sized, Nat.le_trans (Nat.min_le_left _ _) room⟩
  rw [Command.at?, copy, read]
  simp only [if_pos fits, kind, size]

/-- A segment that was copied differs in where its sections are found. -/
theorem Segment.read?_of_copiedTo (copied : command.CopiedTo before after address)
    : read? after { command with address }
      = (read? before command).map fun segment =>
          { segment with sections := address.advance (headerSize segment.width) } := by
  have same : widthOf? { command with address } = widthOf? command := rfl
  rw [read?, read?, same]
  cases widthOf? command with
  | none => rfl
  | some width =>
      have positive : 0 < headerSize width := by cases width <;> decide
      dsimp only
      rw [copied.record? positive, Option.map_map]
      rfl

/-- Each section of a segment was copied together with it. -/
theorem Segment.sectionAt?_of_copiedTo (copied : command.CopiedTo before after address)
    {segment : Segment} (found : read? before command = some segment) {index : Nat}
    (counted : index < segment.sectionCount)
    : sectionAt? after
        { segment with sections := address.advance (headerSize segment.width) } index
      = segment.sectionAt? before index := by
  obtain ⟨room, _⟩ := sectionCount_of_read? found
  obtain ⟨start, header⟩ := sections_of_read? found
  have last : (index + 1) * sectionSize segment.width
      ≤ command.size - headerSize segment.width :=
    Nat.le_trans (Nat.mul_le_mul_right _ (Nat.le_trans counted room)) (Nat.div_mul_le_self _ _)
  rw [Nat.add_mul, Nat.one_mul] at last
  have positive : 0 < sectionSize segment.width := by cases segment.width <;> decide
  have same := copied (headerSize segment.width + index * sectionSize segment.width)
    (sectionSize segment.width) positive (by omega)
  rw [← Address.advance_advance, ← Address.advance_advance, ← start] at same
  rw [sectionAt?, sectionAt?]
  dsimp only
  rw [same]

theorem Segment.findSection?_of_copiedTo (copied : command.CopiedTo before after address)
    {segment : Segment} (found : read? before command = some segment) (name : String)
    : findSection? after
        { segment with sections := address.advance (headerSize segment.width) } name
      = segment.findSection? before name := by
  rw [findSection?_eq, findSection?_eq]
  refine congrArg (List.find? _) (List.filterMap_congr fun index among => ?_)
  exact sectionAt?_of_copiedTo copied found (List.mem_range.mp among)

/-- What is collected from a command does not depend on where it is. -/
theorem Survey.add_of_copiedTo (copied : command.CopiedTo before after address)
    (survey : Survey)
    : survey.add after width { command with address } = survey.add before width command := by
  unfold add
  dsimp only
  split
  case isTrue =>
    rw [Segment.read?_of_copiedTo copied]
    cases found : Segment.read? before command with
    | none => rfl
    | some segment =>
        dsimp only [Option.map_some, addSegment]
        rw [Segment.findSection?_of_copiedTo copied found]
        rfl
  case isFalse =>
    simp only [uuidOf?, versionOf?, copied.record? (by decide : 0 < 24)]

/-- In the bytes of a region a command is copied by copying its part of them. -/
theorem Command.copiedTo_ofRegions {start source target kind size : Nat} {old new : List UInt8}
    (source_inside : start + source + size < UInt64.size)
    (target_inside : start + target + size < UInt64.size)
    (same : (new.drop target).take size = (old.drop source).take size)
    : CopiedTo (.ofRegions [⟨start, old.toArray⟩]) (.ofRegions [⟨start, new.toArray⟩])
        ⟨kind, .ofNat (start + source), size⟩ (.ofNat (start + target)) := by
  intro offset count positive within
  dsimp only at within ⊢
  have place {part : Nat} (inside : start + part + size < UInt64.size)
      : ((Address.ofNat (start + part)).advance offset).toNat = start + part + offset := by
    have itself : (Address.ofNat (start + part)).toNat = start + part :=
      UInt64.toNat_ofNat_of_lt' (by omega)
    rw [Address.toNat_advance (by rw [itself]; omega), itself]
  refine (Memory.ofRegions_bytewise _).read?_eq (Memory.ofRegions_bytewise _) positive ?_ ?_
    fun index inside => ?_
  · rw [place source_inside]
    omega
  · rw [place target_inside]
    omega
  · have here : offset + index < size := by omega
    have byte := congrArg (·[offset + index]?) same
    simp only [List.getElem?_take_of_lt here, List.getElem?_drop] at byte
    rw [place source_inside, place target_inside, Memory.regionByte?_singleton,
      Memory.regionByte?_singleton, if_pos (by omega), if_pos (by omega)]
    have distance (part : Nat) : start + part + offset + index - start = part + (offset + index) :=
      by omega
    rw [distance, distance, byte]

-----------------------------------------------------------------------------------------
-- All commands at other places
-----------------------------------------------------------------------------------------

/-- How many bytes commands take up. -/
def Command.total : List Command → Nat
  | [] => 0
  | command :: rest => command.size + total rest

theorem Command.total_perm {first second : List Command} (perm : first.Perm second)
    : total first = total second := by
  induction perm with
  | nil => rfl
  | cons command _ ih => rw [total, total, ih]
  | swap => simp only [total, Nat.add_left_comm]
  | trans _ _ first second => exact first.trans second

/-- The commands when they stand one behind the other from an address on. -/
def Command.placedFrom (address : Address) : List Command → List Command
  | [] => []
  | command :: rest =>
    { command with address } :: placedFrom (address.advance command.size) rest

/-- All that stood in the commands is found from an address on, one command behind the other. -/
def Command.AllCopiedTo (before after : Memory) (address : Address) : List Command → Prop
  | [] => True
  | command :: rest =>
    command.CopiedTo before after address
    ∧ AllCopiedTo before after (address.advance command.size) rest

/-- Commands in another order collect what these commands collect, by induction on them. -/
theorem Survey.foldl_add_placedFrom {commands : List Command}
    (copied : Command.AllCopiedTo before after address commands) (survey : Survey)
    : (Command.placedFrom address commands).foldl (add after width) survey
      = commands.foldl (add before width) survey := by
  induction commands generalizing address survey with
  | nil => rfl
  | cons command rest ih =>
      rw [Command.placedFrom, List.foldl_cons, List.foldl_cons, add_of_copiedTo copied.1,
        ih copied.2]

/-- A walk finds commands that were copied to where it goes, and goes on behind them. -/
theorem Commands.walk_placedFrom {commands : List Command} {left : Nat}
    (copied : Command.AllCopiedTo before after address commands)
    (stored : ∀ command ∈ commands, command.Stored before)
    (room : commands ≠ [] → address.toNat + Command.total commands ≤ stop.toNat)
    : walk after address stop (commands.length + left)
      = let rest := walk after (address.advance (Command.total commands)) stop left
        ⟨Command.placedFrom address commands ++ rest.list, rest.brokenAt⟩ := by
  induction commands generalizing address with
  | nil =>
      simp only [List.length_nil, Nat.zero_add, Command.total, Address.advance_zero]
      rfl
  | cons command rest ih =>
      have space := room (List.cons_ne_nil _ _)
      rw [Command.total] at space
      have below : stop.toNat < UInt64.size := stop.value.toNat_lt
      obtain ⟨here, others⟩ := List.forall_mem_cons.mp stored
      have next : (address.advance command.size).toNat = address.toNat + command.size :=
        Address.toNat_advance (by omega)
      have onward := ih copied.2 others fun _ => by omega
      rw [List.length_cons, Nat.add_right_comm, walk, copied.1.at? here (by omega)]
      simp only [onward, Command.total, Address.advance_advance]
      rfl

/-- The commands of a walk are stored where they were found, by induction on their count. -/
theorem Commands.walk_stored {memory : Memory} {limit : Nat}
    : ∀ command ∈ (walk memory address stop limit).list, command.Stored memory := by
  induction limit generalizing address with
  | zero => exact fun _ none => absurd none List.not_mem_nil
  | succ limit ih =>
      rw [walk]
      cases found : Command.at? memory address stop with
      | none => exact fun _ none => absurd none List.not_mem_nil
      | some command => exact List.forall_mem_cons.mpr ⟨(Command.of_at? found).2.1, ih⟩

/-- A walk ends behind the last of its commands, by induction on their count. -/
theorem Commands.walk_rest {memory : Memory} {limit : Nat}
    : ∃ left,
        limit = (walk memory address stop limit).list.length + left
        ∧ walk memory
            (address.advance (Command.total (walk memory address stop limit).list)) stop left
          = ⟨[], (walk memory address stop limit).brokenAt⟩ := by
  induction limit generalizing address with
  | zero => exact ⟨0, rfl, rfl⟩
  | succ limit ih =>
      rw [walk]
      cases found : Command.at? memory address stop with
      | none =>
          refine ⟨limit + 1, by simp, ?_⟩
          dsimp only
          rw [Command.total, Address.advance_zero, walk, found]
      | some command =>
          obtain ⟨left, counted, ends⟩ := @ih (address.advance command.size)
          refine ⟨left, ?_, ?_⟩
          · dsimp only
            rw [List.length_cons, Nat.add_right_comm, ← counted]
          · rw [← ends, Address.advance_advance]
            rfl

/-- A walk with a command starts at or below the place where it has to stop. -/
theorem Commands.start_le_stop {memory : Memory} {limit : Nat}
    (nonempty : (walk memory address stop limit).list ≠ [])
    : address.toNat ≤ stop.toNat := by
  cases limit with
  | zero => exact absurd rfl nonempty
  | succ limit =>
      cases found : Command.at? memory address stop with
      | none =>
          rw [walk, found] at nonempty
          exact absurd rfl nonempty
      | some command =>
          obtain ⟨_, _, ends⟩ := Command.of_at? found
          have below : address.toNat < UInt64.size := address.value.toNat_lt
          omega

/-- At a place where no command was none is found as long as the start of it does not change. -/
theorem Commands.walk_nil_of_read? {left : Nat} {brokenAt : Option Address}
    (same
      : after.read? address Command.minimalSize = before.read? address Command.minimalSize)
    (ends : walk before address stop left = ⟨[], brokenAt⟩)
    : walk after address stop left = ⟨[], brokenAt⟩ := by
  cases left with
  | zero => exact ends
  | succ left =>
      have found : Command.at? after address stop = Command.at? before address stop := by
        rw [Command.at?, Command.at?, same]
      rw [walk] at ends ⊢
      rw [found]
      cases here : Command.at? before address stop with
      | none => rwa [here] at ends
      | some command =>
          rw [here] at ends
          cases congrArg Commands.list ends

end CrashCapture.Image
