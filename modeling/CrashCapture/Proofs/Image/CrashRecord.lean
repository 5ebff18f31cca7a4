import CrashCapture.Memory.Regions
import CrashCapture.Program.Images
import CrashCapture.Proofs.Image.Resolution
import CrashCapture.Proofs.Image.Survey
import CrashCapture.Proofs.Image.TextSearch
import Mathlib.Data.List.TakeWhile

/-! Crash information of an image, in memory where readability is decided for each byte. Nothing
is reported unless every check was passed, and what is reported can be read back in full.
-/

namespace CrashCapture.Image

variable {memory : Memory} {byte? : Nat → Option UInt8}

-----------------------------------------------------------------------------------------
-- Reading a text back
-----------------------------------------------------------------------------------------

namespace StoredText

variable {text : StoredText} {bytes : List UInt8}

/-- The text consists of these bytes: they stand at its address, none of them is zero, and a
zero stands behind them.
-/
structure Consists (byte? : Nat → Option UInt8) (text : StoredText) (bytes : List UInt8)
    : Prop where
  length : bytes.length = text.length
  holds : Memory.Holds byte? text.address.toNat bytes
  nonzero : ∀ byte ∈ bytes, byte ≠ 0
  ended : byte? (text.address.toNat + text.length) = some 0

/-- A text that went past the end of the address space would go through null. -/
theorem StandsFrom.inside (stands : text.StandsFrom byte? 0) (unmapped : byte? 0 = none)
    : text.address.toNat + text.length < UInt64.size := by
  refine Nat.lt_of_not_le fun passes => ?_
  have bound : text.address.toNat < UInt64.size := text.address.value.toNat_lt
  obtain ⟨byte, here⟩ :=
    stands.readable (Nat.zero_le (UInt64.size - text.address.toNat)) (by omega)
  have null : (text.address.advance (UInt64.size - text.address.toNat)).toNat = 0 := by
    rw [Address.toNat_advance_mod, Nat.add_sub_cancel' (Nat.le_of_lt bound), Nat.mod_self]
  rw [null, unmapped] at here
  cases here

/-- A text that stands in memory consists of the bytes that are there. -/
theorem StandsFrom.consists (stands : text.StandsFrom byte? 0)
    (inside : text.address.toNat + text.length < UInt64.size)
    : ∃ bytes, text.Consists byte? bytes := by
  have place {offset : Nat} (within : offset ≤ text.length)
      : (text.address.advance offset).toNat = text.address.toNat + offset :=
    Address.toNat_advance (by omega)
  have nonzero {index : Nat} (before : index < text.length)
      : ∃ byte, byte? (text.address.toNat + index) = some byte ∧ byte ≠ 0 :=
    place (Nat.le_of_lt before) ▸ stands.nonzero index (Nat.zero_le _) before
  refine ⟨(List.range text.length).map fun index =>
    (byte? (text.address.toNat + index)).getD 0, by simp, ?_, ?_, ?_⟩
  · intro index within
    have before : index < text.length := by simpa using within
    obtain ⟨byte, here, _⟩ := nonzero before
    simp [List.getElem?_range before, here]
  · intro byte among
    obtain ⟨index, before, rfl⟩ := List.mem_map.mp among
    obtain ⟨byte, here, set⟩ := nonzero (List.mem_range.mp before)
    rwa [here]
  · exact place (Nat.le_refl _) ▸ stands.ended

/-- A buffer takes as many bytes of the text as it has room for in front of a zero, however they
were found chunk by chunk.
-/
theorem Consists.read?_take (consists : text.Consists byte? bytes)
    (bytewise : memory.Bytewise byte?)
    (inside : text.address.toNat + text.length < UInt64.size) {capacity : Nat}
    (some_room : 0 < capacity)
    : text.read? memory capacity = some (bytes.take (capacity - 1)) := by
  have taken : (bytes.take (capacity - 1)).length = min text.length (capacity - 1) := by
    rw [List.length_take, consists.length, Nat.min_comm]
  rw [read?, if_neg (Nat.ne_of_gt some_room)]
  dsimp only
  rw [← taken]
  split
  case isTrue none_fit => rw [List.eq_nil_of_length_eq_zero none_fit]
  case isFalse some_fit =>
    have front
        : Memory.Holds byte? text.address.toNat (bytes.take (capacity - 1)) := by
      intro index within
      rw [List.length_take] at within
      rw [List.getElem?_take_of_lt (Nat.lt_min.mp within).1]
      exact consists.holds index (Nat.lt_min.mp within).2
    have read
        : memory.read? text.address (bytes.take (capacity - 1)).length
          = some (bytes.take (capacity - 1)) :=
      (bytewise.read?_eq_some_iff (Nat.pos_of_ne_zero some_fit)).mpr ⟨by omega, rfl, front⟩
    have whole
        : (bytes.take (capacity - 1)).takeWhile (· ≠ 0) = bytes.take (capacity - 1) :=
      List.takeWhile_eq_self_iff.mpr fun byte among =>
        decide_eq_true (consists.nonzero byte (List.mem_of_mem_take among))
    rw [read, Option.map_some, whole]

/-- A buffer with room for more than the text takes all of its bytes. -/
theorem Consists.read?_eq (consists : text.Consists byte? bytes)
    (bytewise : memory.Bytewise byte?)
    (inside : text.address.toNat + text.length < UInt64.size) {capacity : Nat}
    (room : text.length < capacity)
    : text.read? memory capacity = some bytes := by
  rw [consists.read?_take bytewise inside (Nat.zero_lt_of_lt room), List.take_of_length_le]
  rw [consists.length]
  exact Nat.le_sub_one_of_lt room

/-- A text as it is reported: it starts where the pointer in the record says, is not too long,
ends at its first zero, and is read back without loss into every buffer that has room for more
than the text, as has the one for crash messages.
-/
structure Reported (memory : Memory) (byte? : Nat → Option UInt8) (record : List UInt8)
    (offset : Nat) (text : StoredText) : Prop where
  start : text.address.toNat = Memory.field record offset 8
  short : text.length ≤ CrashInfo.longestText
  content
    : ∃ bytes,
        text.Consists byte? bytes
        ∧ (∀ capacity, text.length < capacity → text.read? memory capacity = some bytes)
        ∧ text.read? memory Program.crashMessageCapacity = some bytes

end StoredText

namespace CrashInfo

-----------------------------------------------------------------------------------------
-- The record
-----------------------------------------------------------------------------------------

/-- The texts of crash information, each with the offset of its pointer in the record. -/
def texts (info : CrashInfo) : List (Nat × Option StoredText) :=
  [(8, info.message), (16, info.signature), (24, info.backtrace), (32, info.message2)]

/-- A record that says something: its version is known and one of its messages is set. -/
structure Accepted (record : List UInt8) : Prop where
  version : Memory.field record 0 4 = 4 ∨ Memory.field record 0 4 = 5
  message : Memory.field record 8 8 ≠ 0 ∨ Memory.field record 32 8 ≠ 0

/-- A pointer in a record is an address. -/
theorem toNat_pointer (record : List UInt8) (offset : Nat)
    : (Address.ofNat (Memory.field record offset 8)).toNat = Memory.field record offset 8 :=
  UInt64.toNat_ofNat_of_lt (Memory.field_lt record offset 8)

/-- A text of a record is reported as it should be. -/
theorem reported_of_textAt? (bytewise : memory.Bytewise byte?) (unmapped : byte? 0 = none)
    {record : List UInt8} {offset : Nat} {text : StoredText}
    (found : textAt? memory record offset = some text)
    : text.Reported memory byte? record offset := by
  obtain ⟨start, below, stands⟩ := StoredText.standsFrom_of_find? bytewise.shows found
  have inside := stands.inside unmapped
  obtain ⟨bytes, consists⟩ := stands.consists inside
  have room {capacity : Nat} (more : text.length < capacity)
      : text.read? memory capacity = some bytes :=
    consists.read?_eq bytewise inside more
  refine ⟨?_, Nat.le_of_lt_succ below, bytes, consists, fun _ => room, room below⟩
  rw [start, toNat_pointer]

/-- What the pointers of a record lead to. -/
def told (memory : Memory) (record : List UInt8) : CrashInfo where
  message := textAt? memory record 8
  message2 := textAt? memory record 32
  signature := textAt? memory record 16
  backtrace := textAt? memory record 24

theorem mem_texts_told {record : List UInt8} {offset : Nat} {text? : Option StoredText}
    (among : (offset, text?) ∈ (told memory record).texts)
    : text? = textAt? memory record offset := by
  simp only [texts, told, List.mem_cons, Prod.mk.injEq, List.not_mem_nil, or_false] at among
  rcases among with ⟨rfl, rfl⟩ | ⟨rfl, rfl⟩ | ⟨rfl, rfl⟩ | ⟨rfl, rfl⟩
  all_goals rfl

theorem ofRecord_value_of_accepted {record : List UInt8} (accepted : Accepted record)
    : (ofRecord memory record).value = told memory record := by
  obtain ⟨version, message⟩ := accepted
  simp only [ofRecord]
  rw [if_neg (by omega), if_neg (by omega)]
  rfl

/-- A record that is not accepted says nothing. -/
theorem accepted_of_ofRecord {record : List UInt8}
    (reports : (ofRecord memory record).value.isEmpty = false)
    : Accepted record := by
  have known : ¬ (Memory.field record 0 4 ≠ 4 ∧ Memory.field record 0 4 ≠ 5) := by
    intro unknown
    simp only [ofRecord, if_pos unknown] at reports
    cases reports
  have set : ¬ (Memory.field record 8 8 = 0 ∧ Memory.field record 32 8 = 0) := by
    intro null
    simp only [ofRecord, if_neg known, if_pos null] at reports
    cases reports
  exact ⟨by omega, by omega⟩

/-- A record that can be read is one that a single probe finds to be readable. -/
theorem isReadable_of_read? {start : Address} {record : List UInt8}
    (there : memory.read? start recordSize = some record)
    : memory.isReadable start recordSize = true := by
  have probe : min recordSize Memory.probeSize = recordSize := by decide
  rw [Memory.isReadable, if_neg (by decide)]
  simp only [probe, there, Nat.sub_self]
  rw [Memory.isReadable]
  rfl

theorem read_value_of_accepted {start : Address} {size : Nat} {record : List UInt8}
    (large : recordSize ≤ size) (there : memory.read? start recordSize = some record)
    (accepted : Accepted record)
    : (read memory start size).value = told memory record := by
  rw [read, if_neg (Nat.not_lt_of_le large), if_pos (isReadable_of_read? there), there]
  exact ofRecord_value_of_accepted accepted

/-- Something is said only at the start of a section that is not too small, by a record of which
all bytes are there and that is accepted.
-/
theorem accepted_of_read {start : Address} {size : Nat}
    (reports : (read memory start size).value.isEmpty = false)
    : recordSize ≤ size
      ∧ ∃ record, memory.read? start recordSize = some record ∧ Accepted record := by
  have large : ¬ size < recordSize := by
    intro small
    rw [read, if_pos small] at reports
    cases reports
  refine ⟨Nat.le_of_not_lt large, ?_⟩
  rw [read, if_neg large] at reports
  split at reports
  case isTrue =>
    cases found : memory.read? start recordSize with
    | none =>
        rw [found] at reports
        cases reports
    | some record =>
        rw [found] at reports
        exact ⟨record, rfl, accepted_of_ofRecord reports⟩
  case isFalse => cases reports

end CrashInfo

-----------------------------------------------------------------------------------------
-- What the description of an image reports
-----------------------------------------------------------------------------------------

/-- An image at an address has a record of crash information: its addresses are wide, its first
section for one is large enough, and at the start of that section, moved with the text, an
accepted record can be read.
-/
structure Header.HasRecord (memory : Memory) (header : Header) (address : Address)
    (found : Section) (record : List UInt8)
    : Prop where
  wide : header.width = .wide
  first : (header.crashSections memory).head? = some found
  large : CrashInfo.recordSize ≤ found.size.toNat
  there
    : memory.read? ⟨found.address + (address.value - header.textAddress memory)⟩
        CrashInfo.recordSize
      = some record
  accepted : CrashInfo.Accepted record

/-- Where readability is decided for each byte and nothing can be read at null, the description
of an image reports crash information only when the image has a record of it, and then reports
what the pointers of the record lead to. Every text that is reported starts at its pointer, ends
within the limit at its first zero, and can be read back without loss.
-/
theorem Table.describe?_crashInfo_recorded {table : Table} {byte? : Nat → Option UInt8}
    (bytewise : table.memory.Bytewise byte?) (unmapped : byte? 0 = none) {address : Address}
    {name : Option (List UInt8)} {image : Description}
    (described : (table.describe? address name).value = some image)
    : ∃ header,
        (Header.read? table.memory address).value = some header
        ∧ (image.crashInfo.isEmpty = false
          → ∃ found record, header.HasRecord table.memory address found record)
        ∧ ∀ found record,
            header.HasRecord table.memory address found record
            → image.crashInfo = CrashInfo.told table.memory record
              ∧ ∀ offset text,
                  (offset, some text) ∈ image.crashInfo.texts
                  → text.Reported table.memory byte? record offset := by
  obtain ⟨header, read, _, info⟩ := describe?_value_of_segments described
  refine ⟨header, read, fun reports => ?_, fun found record has => ?_⟩
  · cases counted : header.crashSection? table.memory with
    | none =>
        rw [info, counted] at reports
        cases reports
    | some found =>
        simp only [info, counted] at reports
        obtain ⟨large, record, there, accepted⟩ := CrashInfo.accepted_of_read reports
        rw [Header.crashSection?] at counted
        split at counted
        case isTrue wide => exact ⟨found, record, wide, counted, large, there, accepted⟩
        case isFalse => cases counted
  · have counted : header.crashSection? table.memory = some found := by
      rw [Header.crashSection?, if_pos has.wide, has.first]
    have told : image.crashInfo = CrashInfo.told table.memory record := by
      simp only [info, counted]
      exact CrashInfo.read_value_of_accepted has.large has.there has.accepted
    refine ⟨told, fun offset text among => ?_⟩
    rw [told] at among
    exact CrashInfo.reported_of_textAt? bytewise unmapped (CrashInfo.mem_texts_told among).symm

/-- An image that is moved up by 0x7000, with a record of version 5 right behind its commands and
a message behind the record.
-/
def crashedImage : List UInt8 :=
  [0xFEEDFACF, 7, 3, 2, 2, 224, 0, 0].flatMap Table.wordBytes
    ++ [0x19, 72, 0x45545F5F, 0x5458, 0, 0, 0x1000, 0, 0x1000, 0, 0, 0, 0, 0, 0, 0, 0,
        0].flatMap Table.wordBytes
    ++ [0x19, 152, 0x41445F5F, 0x4154, 0, 0, 0x2000, 0, 0x1000, 0, 0, 0, 0, 0, 0, 0, 1,
        0].flatMap Table.wordBytes
    ++ [0x72635F5F, 0x5F687361, 0x6F666E69, 0, 0x41445F5F, 0x4154, 0, 0, 0x1100, 0, 64, 0,
        0, 0, 0, 0, 0, 0, 0, 0].flatMap Table.wordBytes
    ++ [5, 0, 0x8128, 0, 0, 0, 0, 0, 0, 0].flatMap Table.wordBytes
    ++ Text.bytes "boom" ++ List.replicate 64 0

def crashedRegions : List Memory.Region := [⟨0x8000, crashedImage.toArray⟩]

def crashed : Table where
  source := .none
  memory := .ofRegions crashedRegions

/-- The message of that image is reported, and is read back as it was left there. -/
theorem Table.describe?_crashInfo_recorded_of_message
    : ∃ image header found record text,
        (crashed.describe? ⟨0x8000⟩ none).value = some image
        ∧ image.crashInfo = { message := some text }
        ∧ Header.HasRecord crashed.memory header ⟨0x8000⟩ found record
        ∧ text = ⟨⟨0x8128⟩, 4⟩
        ∧ text.Reported crashed.memory (Memory.regionByte? crashedRegions) record 8
        ∧ text.read? crashed.memory Program.crashMessageCapacity
          = some (Text.bytes "boom") := by
  have message : (crashed.describe? ⟨0x8000⟩ none).value.map (·.crashInfo)
      = some { message := some ⟨⟨0x8128⟩, 4⟩ } := by
    decide +kernel
  obtain ⟨image, described, info⟩ := Option.map_eq_some_iff.mp message
  obtain ⟨header, _, only, reported⟩ :=
    Table.describe?_crashInfo_recorded (Memory.ofRegions_bytewise crashedRegions)
      (by decide +kernel) described
  obtain ⟨found, record, has⟩ := only (by rw [info]; rfl)
  have text := (reported found record has).2 8 ⟨⟨0x8128⟩, 4⟩
    (by rw [info]; exact List.mem_cons_self)
  exact ⟨image, header, found, record, _, described, info, has, rfl, text, by decide +kernel⟩

end CrashCapture.Image
