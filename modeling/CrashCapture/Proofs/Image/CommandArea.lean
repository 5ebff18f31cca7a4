import CrashCapture.Memory.Regions
import CrashCapture.Proofs.Image.CheckedSegments
import CrashCapture.Proofs.Image.Resolution
import CrashCapture.Proofs.Memory.Contents

/-! The area of an image's load commands. The sizes that a walk goes by are not to be trusted,
but as long as the area does not reach the top of the address space no command of the walk is
outside of it, and no section that is looked at is outside of its command.
-/

namespace CrashCapture.Image

-----------------------------------------------------------------------------------------
-- Commands in an area
-----------------------------------------------------------------------------------------

/-- The command is as long as its own start at least, and its kind and its size are those that
stand in memory where it is.
-/
structure Command.Stored (memory : Memory) (command : Command) : Prop where
  sized : minimalSize ≤ command.size
  record
    : ∃ record,
        memory.read? command.address minimalSize = some record
        ∧ command.kind = Memory.field record 0 4
        ∧ command.size = Memory.field record 4 4

/-- Why there is no command at an address: what every command starts with cannot be read there,
or says a size that is shorter than this start or goes on behind the place where the area stops.
-/
inductive BreaksAt (memory : Memory) (stop : Nat) (address : Address) : Prop where
  | unreadable (absent : memory.read? address Command.minimalSize = none)
  | short {record} (read : memory.read? address Command.minimalSize = some record)
    (short : Memory.field record 4 4 < Command.minimalSize)
  | beyond {record} (read : memory.read? address Command.minimalSize = some record)
    (past : stop < address.toNat + Memory.field record 4 4)

/-- The commands stand one behind the other, the first of them at the position. -/
def Consecutive : (position : Nat) → List Command → Prop
  | _, [] => True
  | position, command :: rest =>
    command.address.toNat = position ∧ Consecutive (position + command.size) rest

/-- The position behind commands that stand one behind the other. -/
def behind : (position : Nat) → List Command → Nat
  | position, [] => position
  | position, command :: rest => behind (position + command.size) rest

/-- A walk ends with the last command that is counted, or at the first place behind the
commands where there is none.
-/
inductive Commands.Stops (memory : Memory) (start bytes limit : Nat) (commands : Commands)
    : Prop where
  | counted (all : commands.list.length = limit) (unbroken : commands.brokenAt = none)
  | broken {address} (fewer : commands.list.length < limit)
    (here : commands.brokenAt = some address)
    (place : address.toNat = behind start commands.list)
    (breaks : BreaksAt memory (start + bytes) address)

/-- The commands of a walk fill an area of so many bytes from `start` on, as far as they are
counted and can be read.
-/
structure Commands.Fill (memory : Memory) (start bytes limit : Nat) (commands : Commands)
    : Prop where
  consecutive : Consecutive start commands.list
  stored : ∀ command ∈ commands.list, command.Stored memory
  inside
    : ∀ command ∈ commands.list,
        start ≤ command.address.toNat
        ∧ command.address.toNat + command.size ≤ start + bytes
  few : commands.list.length ≤ min limit (bytes / Command.minimalSize)
  stops : commands.Stops memory start bytes limit

-----------------------------------------------------------------------------------------
-- One command
-----------------------------------------------------------------------------------------

variable {memory : Memory} {address stop : Address} {bytes : Nat}

/-- A command is stored where it is found, and ends in the area as far as that is compared. -/
theorem Command.of_at? {command : Command} (found : at? memory address stop = some command)
    : command.address = address ∧ command.Stored memory
      ∧ min (address.toNat + command.size) (UInt64.size - 1) ≤ stop.toNat := by
  rw [at?] at found
  cases read : memory.read? address minimalSize with
  | none =>
      rw [read] at found
      cases found
  | some record =>
      simp only [read] at found
      split at found
      case isTrue fits =>
        obtain rfl := Option.some.inj found
        exact ⟨rfl, ⟨fits.1, record, read, rfl, rfl⟩, fits.2⟩
      case isFalse => cases found

/-- Below the top of the address space the end of a command is compared as it is. -/
theorem Command.at?_eq_some {command : Command} (low : stop.toNat < UInt64.size - 1)
    (found : at? memory address stop = some command)
    : command.address = address ∧ command.Stored memory
      ∧ address.toNat + command.size ≤ stop.toNat := by
  obtain ⟨place, stored, ends⟩ := of_at? found
  exact ⟨place, stored, by omega⟩

theorem Command.breaksAt_of_at?_eq_none (absent : at? memory address stop = none)
    : BreaksAt memory stop.toNat address := by
  rw [at?] at absent
  cases read : memory.read? address minimalSize with
  | none => exact .unreadable read
  | some record =>
      simp only [read] at absent
      split at absent
      case isTrue => cases absent
      case isFalse unfit =>
        rcases Nat.lt_or_ge (Memory.field record 4 4) minimalSize with short | sized
        · exact .short read short
        · have ends := fun within => unfit ⟨sized, within⟩
          exact .beyond read (by omega)

-----------------------------------------------------------------------------------------
-- The whole walk
-----------------------------------------------------------------------------------------

/-- A command in front of commands that fill the rest of an area fills it together with them. -/
theorem Commands.Fill.cons {start limit : Nat} {command : Command} {rest : Commands}
    (at_ : command.address.toNat = start) (stored : command.Stored memory)
    (within : command.size ≤ bytes)
    (fill : rest.Fill memory (start + command.size) (bytes - command.size) limit)
    : Fill memory start bytes (limit + 1) ⟨command :: rest.list, rest.brokenAt⟩ := by
  have sized := stored.sized
  have ends : start + command.size + (bytes - command.size) = start + bytes := by omega
  have inside := fill.inside
  rw [ends] at inside
  constructor
  case consecutive => exact ⟨at_, fill.consecutive⟩
  case stored => exact List.forall_mem_cons.mpr ⟨stored, fill.stored⟩
  case inside =>
    refine List.forall_mem_cons.mpr ⟨⟨Nat.le_of_eq at_.symm, by omega⟩, ?_⟩
    intro other member
    obtain ⟨above, below⟩ := inside other member
    exact ⟨by omega, below⟩
  case few =>
    have few := fill.few
    simp only [Command.minimalSize, List.length_cons] at *
    omega
  case stops =>
    cases fill.stops with
    | counted all unbroken => exact .counted (congrArg (· + 1) all) unbroken
    | broken fewer here place breaks =>
        exact .broken (Nat.succ_lt_succ fewer) here place (ends ▸ breaks)

/-- A walk fills its area, by induction on the commands that are still counted. -/
theorem Commands.walk_fill {limit : Nat} (low : stop.toNat < UInt64.size - 1)
    (area : stop.toNat = address.toNat + bytes)
    : (walk memory address stop limit).Fill memory address.toNat bytes limit := by
  induction limit generalizing address bytes with
  | zero =>
      refine ⟨trivial, ?_, ?_, Nat.zero_le _, .counted rfl rfl⟩
      all_goals exact fun _ none => absurd none List.not_mem_nil
  | succ limit ih =>
      rw [walk]
      cases found : Command.at? memory address stop with
      | none =>
          have breaks := Command.breaksAt_of_at?_eq_none found
          rw [area] at breaks
          refine ⟨trivial, ?_, ?_, Nat.zero_le _, .broken (Nat.succ_pos limit) rfl rfl breaks⟩
          all_goals exact fun _ none => absurd none List.not_mem_nil
      | some command =>
          obtain ⟨at_, stored, within⟩ := Command.at?_eq_some low found
          have next : (address.advance command.size).toNat = address.toNat + command.size :=
            Address.toNat_advance (by omega)
          have rest := @ih (address.advance command.size) (bytes - command.size) (by omega)
          rw [next] at rest
          exact rest.cons (congrArg Address.toNat at_) stored (by omega)

-----------------------------------------------------------------------------------------
-- Sections of a command
-----------------------------------------------------------------------------------------

/-- All that is read lies in the command. -/
def Command.Encloses (command : Command) (read : Access) : Prop :=
  command.address.toNat ≤ read.address.toNat
  ∧ read.address.toNat + read.count ≤ command.address.toNat + command.size

/-- The sections of a segment stand behind the segment's own fields in its command. -/
theorem Segment.sections_of_read? {command : Command} {segment : Segment}
    (found : read? memory command = some segment)
    : segment.sections = command.address.advance (headerSize segment.width)
      ∧ headerSize segment.width ≤ command.size := by
  rw [read?] at found
  cases kind : widthOf? command with
  | none =>
      rw [kind] at found
      cases found
  | some width =>
      simp only [kind, Option.map_eq_some_iff] at found
      obtain ⟨record, read, rfl⟩ := found
      refine ⟨rfl, Nat.le_of_not_lt fun (short : command.size < headerSize width) => ?_⟩
      rw [Command.record?, if_pos short] at read
      cases read

/-- Whatever a segment says of its sections, a search among them reads nothing outside of the
segment's command.
-/
theorem Segment.findSectionChecked_within {command : Command} {segment : Segment}
    {name : String} (found : read? memory command = some segment)
    (low : command.address.toNat + command.size < UInt64.size)
    : (segment.findSectionChecked memory name).Gives (segment.findSection? memory name)
        (∀ read ∈ ·, command.Encloses read) := by
  obtain ⟨room, few⟩ := sectionCount_of_read? found
  obtain ⟨start, header⟩ := sections_of_read? found
  refine .findSomeM?_within fun index member => ?_
  have counted : index < segment.sectionCount := List.mem_range.mp member
  have reads := segment.sectionAtChecked_reads memory (Nat.lt_trans counted few)
  refine (reads.mono fun _ one => ?_).bind_pure
    (Checked.filterM_eq (fun found : Section => hasFixedNameChecked_eq found.name name) _)
  rw [one]
  refine fun read member => List.mem_singleton.mp member ▸ ?_
  -- The record that is read is one of those that the command has room for.
  have last : (index + 1) * sectionSize segment.width
      ≤ command.size - headerSize segment.width :=
    Nat.le_trans (Nat.mul_le_mul_right _ (Nat.le_trans counted room)) (Nat.div_mul_le_self _ _)
  rw [Nat.add_mul, Nat.one_mul] at last
  have place : (segment.sections.advance (index * sectionSize segment.width)).toNat
      = command.address.toNat
        + (headerSize segment.width + index * sectionSize segment.width) := by
    rw [start, Address.advance_advance]
    exact Address.toNat_advance (by omega)
  exact ⟨by rw [place]; omega, by rw [place]; dsimp only; omega⟩

-----------------------------------------------------------------------------------------
-- The area of a header
-----------------------------------------------------------------------------------------

/-- The position right behind a header, where its commands start. -/
def Header.areaStart (header : Header) : Nat :=
  header.address.toNat + header.width.headerSize

/-- Below the top of the address space, whatever the memory holds, the commands of a header
fill the area that it declares, one behind the other, up to the last one that is counted or the
first that is no command; and no section is looked at outside of its command.
-/
theorem commands_stay_in_area {memory : Memory} {header : Header}
    (low : header.areaStart + header.commandBytes < UInt64.size - 1)
    : (Commands.ofHeader memory header).Fill memory header.areaStart header.commandBytes
        header.commandCount
      ∧ ∀ command ∈ (Commands.ofHeader memory header).list, ∀ segment name,
          Segment.read? memory command = some segment
          → (segment.findSectionChecked memory name).Gives (segment.findSection? memory name)
              (∀ read ∈ ·, command.Encloses read) := by
  have start : header.firstCommand.toNat = header.areaStart :=
    Address.toNat_advance (by rw [Header.areaStart] at low; omega)
  have stop : (header.firstCommand.advance header.commandBytes).toNat
      = header.firstCommand.toNat + header.commandBytes :=
    Address.toNat_advance (by omega)
  have fill : (Commands.ofHeader memory header).Fill memory header.firstCommand.toNat
      header.commandBytes header.commandCount :=
    Commands.walk_fill (by omega) stop
  rw [start] at fill
  refine ⟨fill, fun command member segment name found => ?_⟩
  have within := (fill.inside command member).2
  exact Segment.findSectionChecked_within found (by omega)

/-- A header that counts three commands: a segment with room for one section that claims nine of
them, a command without content, and one that is shorter than its own start.
-/
def crowdedImage : Memory :=
  .ofRegions [⟨0x8000,
    (([0xFEEDFACE, 7, 3, 2, 3, 140, 0]
      ++ [1, 124, 0x41445F5F, 0x4154, 0, 0, 0x1000, 0x1000, 0, 0, 0, 0, 9, 0]
      ++ [0x61645F5F, 0x6174, 0, 0, 0x41445F5F, 0x4154, 0, 0]
      ++ [0x1000, 0x20, 0, 0, 0, 0, 0, 0, 0]
      ++ [0x1E, 8] ++ [5, 7]).flatMap Table.wordBytes).toArray⟩]

/-- The walk over its commands ends at the short one, and the search for a section that is not
there stays in the command of the segment.
-/
theorem commands_stay_in_area_of_crowded_image
    : ∃ header segment,
        (Header.read? crowdedImage ⟨0x8000⟩).value = some header
        ∧ Commands.ofHeader crowdedImage header
          = ⟨[⟨1, ⟨0x801C⟩, 124⟩, ⟨0x1E, ⟨0x8098⟩, 8⟩], some ⟨0x80A0⟩⟩
        ∧ (Commands.ofHeader crowdedImage header).Fill crowdedImage 0x801C 140 3
        ∧ Segment.read? crowdedImage ⟨1, ⟨0x801C⟩, 124⟩ = some segment
        ∧ (segment.findSectionChecked crowdedImage "__bss").Gives none
            (∀ read ∈ ·, Command.Encloses ⟨1, ⟨0x801C⟩, 124⟩ read) := by
  let header : Header := ⟨⟨0x8000⟩, .narrow, 7, 3, 3, 140⟩
  let segment : Segment := {
    name := Text.bytes "__DATA" ++ List.replicate 10 0
    vmAddress := 0x1000
    vmSize := 0x1000
    fileOffset := 0
    width := .narrow
    sectionCount := 1
    sections := ⟨0x8054⟩
  }
  have walk : Commands.ofHeader crowdedImage header
      = ⟨[⟨1, ⟨0x801C⟩, 124⟩, ⟨0x1E, ⟨0x8098⟩, 8⟩], some ⟨0x80A0⟩⟩ := by
    decide +kernel
  have found : Segment.read? crowdedImage ⟨1, ⟨0x801C⟩, 124⟩ = some segment := by
    decide +kernel
  have absent : segment.findSection? crowdedImage "__bss" = none := by decide +kernel
  obtain ⟨fill, sections⟩ := @commands_stay_in_area crowdedImage header (by decide)
  have search := sections ⟨1, ⟨0x801C⟩, 124⟩ (walk ▸ List.mem_cons_self) segment "__bss" found
  rw [absent] at search
  exact ⟨header, segment, by decide +kernel, walk, fill, found, search⟩

end CrashCapture.Image
