import CrashCapture.Proofs.Image.CheckedCommands

/-! Segments and sections read with all checks made. A segment is never searched for more
sections than its command has room for, whatever it says of their number.
-/

namespace CrashCapture.Image

namespace Segment

variable {memory : Memory}

/-- The room for sections is counted in 32 bits, as their number is. -/
def ofRecordChecked (command : Command) (width : Width) (record : List UInt8)
    : Checked Segment := do
  let room ← Checked.quotient (command.size - headerSize width) (sectionSize width)
  let counted ← Checked.field record (countOffset width) 4
  return {
    name := ← Checked.slice record 8 16
    vmAddress := .ofNat (← Checked.field record 24 width.word)
    vmSize := .ofNat (← Checked.field record (24 + width.word) width.word)
    fileOffset := .ofNat (← Checked.field record (24 + 2 * width.word) width.word)
    width := width
    sectionCount := min counted (if room < UInt32.size then room else UInt32.size - 1)
    sections := command.address.advance (headerSize width) }

def readChecked (memory : Memory) (command : Command) : Checked (Option Segment) :=
  match widthOf? command with
  | none => return none
  | some width =>
    command.recordChecked memory (headerSize width) (ofRecordChecked command width)

/-- The limit of the room does not matter, for no number of sections is above it. -/
theorem ofRecordChecked_eq {command : Command} {width : Width} {record : List UInt8}
    (full : record.length = headerSize width)
    : ofRecordChecked command width record = pure (ofRecord command width record) := by
  have divisor : sectionSize width ≠ 0 := by cases width <;> decide
  have addresses : 24 + 3 * width.word ≤ record.length := by
    rw [full]
    cases width <;> decide
  have count : countOffset width + 4 ≤ record.length := by
    rw [full]
    cases width <;> decide
  have limited (room : Nat)
      : min (Memory.field record (countOffset width) 4)
          (if room < UInt32.size then room else UInt32.size - 1)
        = min (Memory.field record (countOffset width) 4) room := by
    have small := Memory.field_lt record (countOffset width) 4
    have size : UInt32.size = Memory.holdable 4 := rfl
    split <;> omega
  rw [ofRecordChecked, ofRecord, Checked.quotient_eq divisor]
  simp (disch := omega) only [Checked.field_eq, Checked.slice_eq, Checked.pure_bind,
    limited, Nat.zero_mul, Nat.one_mul, Nat.add_zero]

/-- A segment is read safely in both widths, from records of their own size. -/
theorem readChecked_safe (memory : Memory) (command : Command)
    : (readChecked memory command).Safe (read? memory command) := by
  rw [readChecked, read?]
  cases widthOf? command with
  | none => exact .pure
  | some width => exact Command.recordChecked_safe fun record => ofRecordChecked_eq

/-- A segment has no more sections than fit into its command behind its own fields, and their
number fits into 32 bits.
-/
theorem sectionCount_of_read? {command : Command} {segment : Segment}
    (found : read? memory command = some segment)
    : segment.sectionCount
          ≤ (command.size - headerSize segment.width) / sectionSize segment.width
      ∧ segment.sectionCount < UInt32.size := by
  rw [read?] at found
  cases kind : widthOf? command with
  | none =>
      rw [kind] at found
      cases found
  | some width =>
      simp only [kind, Option.map_eq_some_iff] at found
      obtain ⟨record, _, rfl⟩ := found
      have small := Memory.field_lt record (countOffset width) 4
      have size : UInt32.size = Memory.holdable 4 := rfl
      exact ⟨Nat.min_le_right _ _, by simp only [ofRecord]; omega⟩

def isNamedChecked (segment : Segment) (name : String) : Checked Bool :=
  hasFixedNameChecked segment.name name

/-- A name is compared within its 16 bytes. -/
theorem isNamedChecked_eq (segment : Segment) (name : String)
    : segment.isNamedChecked name = pure (segment.isNamed name) :=
  hasFixedNameChecked_eq segment.name name

def containsChecked (segment : Segment) (address : UInt64) : Checked Bool :=
  if segment.vmAddress ≤ address then do
    return (← Checked.distance address segment.vmAddress) < segment.vmSize
  else return false

/-- Whether an address is in the segment is asked by a difference that cannot fall below zero.
-/
theorem containsChecked_eq (segment : Segment) (address : UInt64)
    : segment.containsChecked address = pure (segment.contains address) := by
  unfold containsChecked contains
  split
  case isTrue above =>
    rw [Checked.distance_eq above, Checked.pure_bind, decide_eq_true above, Bool.true_and]
  case isFalse below => rw [decide_eq_false below, Bool.false_and]

-----------------------------------------------------------------------------------------
-- The sections of a segment
-----------------------------------------------------------------------------------------

def sectionAtChecked (memory : Memory) (segment : Segment) (index : Nat)
    : Checked (Option Section) := do
  let offset ← Checked.mul index (sectionSize segment.width)
  let word := segment.width.word
  Checked.record? memory (segment.sections.advance offset) (sectionSize segment.width)
    fun record => do
      return {
        name := ← Checked.slice record 0 16
        address := .ofNat (← Checked.field record 32 word)
        size := .ofNat (← Checked.field record (32 + word) word) }

def findSectionChecked (memory : Memory) (segment : Segment) (name : String)
    : Checked (Option Section) :=
  (List.range segment.sectionCount).findSomeM? fun index => do
    (← segment.sectionAtChecked memory index).filterM fun found =>
      hasFixedNameChecked found.name name

/-- A section is its record, which is all that is read for it. -/
theorem sectionAtChecked_reads (memory : Memory) (segment : Segment) {index : Nat}
    (below : index < UInt32.size)
    : (segment.sectionAtChecked memory index).Gives (segment.sectionAt? memory index)
        (· = [⟨segment.sections.advance (index * sectionSize segment.width),
          sectionSize segment.width⟩]) := by
  have offset : index * sectionSize segment.width < UInt64.size := by
    have size : sectionSize segment.width ≤ 80 := by cases segment.width <;> decide
    have product := Nat.mul_le_mul (Nat.le_of_lt below) size
    exact Nat.lt_of_le_of_lt product (by decide)
  rw [sectionAtChecked, Checked.mul_eq offset, Checked.pure_bind]
  refine .record?_reads fun record full => ?_
  have room : 32 + 2 * segment.width.word ≤ record.length := by
    rw [full]
    cases segment.width <;> decide
  simp (disch := omega) only [Checked.field_eq, Checked.slice_eq, Checked.pure_bind,
    List.drop_zero]

/-- The record of a section is read once, at an offset that fits. -/
theorem sectionAtChecked_gives (memory : Memory) (segment : Segment) {index : Nat}
    (below : index < UInt32.size)
    : (segment.sectionAtChecked memory index).Gives (segment.sectionAt? memory index)
        (·.length ≤ 1) :=
  (segment.sectionAtChecked_reads memory below).mono fun _ one => one ▸ Nat.le_refl 1

/-- A search for a section reads every record of a section at most once, and nothing else. -/
theorem findSectionChecked_gives {segment : Segment} {name : String}
    (few : segment.sectionCount < UInt32.size)
    : (segment.findSectionChecked memory name).Gives (segment.findSection? memory name)
        (·.length ≤ segment.sectionCount) := by
  have search : (segment.findSectionChecked memory name).Gives
      (segment.findSection? memory name)
      (·.length ≤ (List.range segment.sectionCount).length) := by
    refine .findSomeM? fun index member => ?_
    have below := Nat.lt_trans (List.mem_range.mp member) few
    exact (segment.sectionAtChecked_gives memory below).bind_pure
      (Checked.filterM_eq (fun found : Section => hasFixedNameChecked_eq found.name name) _)
  rwa [List.length_range] at search

end Segment

-----------------------------------------------------------------------------------------
-- The segments of an image
-----------------------------------------------------------------------------------------

/-- The first segment of an image that passes a test. -/
def Header.findSegmentChecked (memory : Memory) (header : Header)
    (test : Segment → Checked Bool)
    : Checked (Option Segment) :=
  header.findCommandChecked memory fun command => do
    (← Segment.readChecked memory command).filterM test

def segmentContainsChecked (memory : Memory) (header : Header) (address : UInt64)
    : Checked Bool := do
  let found ← header.findSegmentChecked memory (·.containsChecked address)
  return found.isSome

def fileBaseChecked (memory : Memory) (header : Header) : Checked (Option UInt64) := do
  let found ← header.findSegmentChecked memory (·.isNamedChecked "__LINKEDIT")
  return found.map fun segment => segment.vmAddress - segment.fileOffset

/-- The search for a segment is safe when its test is. -/
theorem Header.findSegmentChecked_safe {memory : Memory} {header : Header}
    {test : Segment → Checked Bool} {passes : Segment → Bool}
    (tests : ∀ segment, test segment = pure (passes segment))
    : (header.findSegmentChecked memory test).Safe
        ((Commands.ofHeader memory header).findSome? fun command =>
          return (Segment.read? memory command).filter passes).value :=
  findCommandChecked_safe fun command =>
    (Segment.readChecked_safe memory command).bind_pure (Checked.filterM_eq tests _)

/-- Whether some segment contains an address is decided safely. -/
theorem segmentContainsChecked_safe (memory : Memory) (header : Header) (address : UInt64)
    : (segmentContainsChecked memory header address).Safe
        (segmentContains memory header address).value :=
  (Header.findSegmentChecked_safe (·.containsChecked_eq address)).bind_noted fun _ => .pure

/-- The base of the file in memory is computed safely from the segment that holds the linked
data.
-/
theorem fileBaseChecked_safe (memory : Memory) (header : Header)
    : (fileBaseChecked memory header).Safe (fileBase? memory header).value :=
  (Header.findSegmentChecked_safe (·.isNamedChecked_eq "__LINKEDIT")).bind_noted
    fun _ => .pure

end CrashCapture.Image
