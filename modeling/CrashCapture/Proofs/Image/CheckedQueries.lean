import CrashCapture.Proofs.Image.CheckedSegments
import CrashCapture.Proofs.Image.CheckedSymbols
import CrashCapture.Proofs.Image.Resolution

/-! The questions that a table of images answers, with all checks made on the way. A question is
put to memory that a crash may have left in any state; it always comes to its answer, and no loop
goes on for longer than the count that it was given.
-/

namespace CrashCapture.Image

open Checked (Safe)
open Log (Noted)

-----------------------------------------------------------------------------------------
-- What a description collects
-----------------------------------------------------------------------------------------

namespace Survey

def uuidOfChecked (memory : Memory) (command : Command) : Checked (Option (List UInt8)) :=
  command.recordChecked memory 24 fun record => Checked.slice record 8 16

def versionOfChecked (memory : Memory) (command : Command) : Checked (Option Nat) :=
  command.recordChecked memory 24 fun record => Checked.field record 16 4

def addSegmentChecked (memory : Memory) (width : Width) (survey : Survey)
    (segment : Segment)
    : Checked Survey := do
  if ← segment.isNamedChecked "__TEXT" then
    return { survey with text := some (segment.vmAddress, segment.vmSize) }
  else
    let holdsData ← segment.isNamedChecked "__DATA"
    if holdsData ∧ width = .wide then
      match survey.crashSection with
      | some _ => return survey
      | none =>
        return { survey with
          crashSection := ← segment.findSectionChecked memory "__crash_info" }
    else return survey

def addChecked (memory : Memory) (width : Width) (survey : Survey) (command : Command)
    : Checked Survey :=
  if command.kind = Command.segment ∨ command.kind = Command.segmentWide then do
    match ← Segment.readChecked memory command with
    | none => return survey
    | some segment => survey.addSegmentChecked memory width segment
  else if command.kind = Command.uuid then do
    return { survey with uuid := ← uuidOfChecked memory command }
  else if command.kind = Command.libraryId then do
    return { survey with version := (← versionOfChecked memory command).getD 0 }
  else return survey

/-- The 16 bytes of an identifier are within the record of 24 that was copied. -/
theorem uuidOfChecked_safe (memory : Memory) (command : Command)
    : (uuidOfChecked memory command).Safe (uuidOf? memory command) :=
  Command.recordChecked_safe fun _ full => Checked.slice_eq (Nat.le_of_eq full.symm)

/-- The field of a version is within the record of 24 bytes that was copied. -/
theorem versionOfChecked_safe (memory : Memory) (command : Command)
    : (versionOfChecked memory command).Safe (versionOf? memory command) :=
  Command.recordChecked_safe fun _ full =>
    Checked.field_eq (Nat.le_trans (by decide) (Nat.le_of_eq full.symm))

/-- What a segment adds is added safely: its name is compared within 16 bytes, and sections are
searched only while none was found.
-/
theorem addSegmentChecked_safe {memory : Memory} {width : Width} {segment : Segment}
    (few : segment.sectionCount < UInt32.size) (survey : Survey)
    : (survey.addSegmentChecked memory width segment).Safe
        (survey.addSegment memory width segment) := by
  simp only [addSegmentChecked, addSegment, Segment.isNamedChecked_eq, Checked.pure_bind]
  split
  · exact .pure
  · split
    · obtain ⟨text, uuid, version, crashSection⟩ := survey
      cases crashSection with
      | some found => exact .pure
      | none => exact (Segment.findSectionChecked_gives few).safe.bind .pure
    · exact .pure

/-- Each kind of command is added safely, as the record that it is read from is. -/
theorem addChecked_safe (memory : Memory) (width : Width) (survey : Survey)
    (command : Command)
    : (survey.addChecked memory width command).Safe (survey.add memory width command) := by
  unfold addChecked add
  split
  · refine (Segment.readChecked_safe memory command).bind ?_
    cases found : Segment.read? memory command with
    | none => exact .pure
    | some segment => exact addSegmentChecked_safe (Segment.sectionCount_of_read? found).2 survey
  · split
    · exact (uuidOfChecked_safe memory command).bind .pure
    · split
      · exact (versionOfChecked_safe memory command).bind .pure
      · exact .pure

end Survey

namespace Table

variable {table : Table}

-----------------------------------------------------------------------------------------
-- Describing images
-----------------------------------------------------------------------------------------

def describeChecked (table : Table) (address : Address) (name : Option (List UInt8))
    : Checked (Option Description) := do
  match ← Header.readChecked table.memory address with
  | none => return none
  | some header =>
    let survey ←
      header.foldCommandsChecked table.memory (Survey.addChecked table.memory header.width) {}
    let (vmAddress, size) := survey.text.getD (0, 0)
    let slide := address.value - vmAddress
    let crashInfo ← match survey.crashSection with
      | none => pure {}
      | some found =>
        CrashInfo.readChecked table.memory ⟨found.address + slide⟩ found.size.toNat
    return some {
      address := address
      vmAddress := vmAddress
      size := size
      slide := slide
      name := name
      uuid := survey.uuid
      cpuType := header.cpuType
      cpuSubtype := header.cpuSubtype
      version := survey.version
      crashInfo := crashInfo }

def imageAtChecked (table : Table) (index : Nat) : Checked (Option Description) :=
  match (table.source.image index).header with
  | none => return none
  | some address => table.describeChecked address (table.source.image index).name

/-- A description is safe: header, commands and the crash section are read with checks, and the
commands are folded as without them.
-/
theorem describeChecked_safe (table : Table) (address : Address) (name : Option (List UInt8))
    : (table.describeChecked address name).Safe (table.describe? address name).value := by
  refine Header.readChecked_safe.bind_noted fun found => ?_
  cases found with
  | none => exact .pure
  | some header =>
      refine (Header.foldCommandsChecked_safe
        (Survey.addChecked_safe table.memory header.width) {}).bind ?_
      simp only [Noted.value_bind, Commands.all, Noted.value_pure]
      generalize (Commands.ofHeader table.memory header).list.foldl
        (Survey.add table.memory header.width) {} = survey
      cases survey.crashSection with
      | none => exact .pure
      | some found => exact (CrashInfo.readChecked_safe _ _ _).bind .pure

/-- An image of the table is described safely, or has no header to read. -/
theorem imageAtChecked_safe (table : Table) (index : Nat)
    : (table.imageAtChecked index).Safe (table.imageAt? index).value := by
  unfold imageAtChecked imageAt?
  cases (table.source.image index).header with
  | none => exact .pure
  | some address => exact table.describeChecked_safe address _

-----------------------------------------------------------------------------------------
-- Images found by name
-----------------------------------------------------------------------------------------

/-- An empty part is everywhere, and there are no windows for it. -/
def holdsChecked (part list : List UInt8) : Checked Bool :=
  if part.isEmpty then return true
  else do return (← Checked.windows list part.length).any (· = part)

def findByNameChecked (table : Table) (name : String) (exact : Bool)
    : Checked (Option Nat) :=
  (List.range table.source.count).findM? fun index =>
    match (table.source.image index).name with
    | none => return false
    | some path =>
      if exact then return path = Text.bytes name else holdsChecked (Text.bytes name) path

def imageUuidChecked (table : Table) (name : String) (exact : Bool)
    : Checked (Option (List UInt8)) := do
  match ← table.findByNameChecked name exact with
  | none => return none
  | some index =>
    match (table.source.image index).header with
    | none => return none
    | some address =>
      match ← Header.readChecked table.memory address with
      | none => return none
      | some header =>
        let found ← header.findCommandChecked table.memory fun command =>
          return (some command).filter (·.kind = Command.uuid)
        match found with
        | none => return none
        | some command => Survey.uuidOfChecked table.memory command

/-- One list holds another when that is an infix of it, by induction on the list. -/
theorem holds_iff (part list : List UInt8)
    : holds part list = true ↔ part <:+: list := by
  induction list with
  | nil => rw [holds, List.isEmpty_iff, List.infix_nil]
  | cons byte rest ih =>
      rw [holds, Bool.or_eq_true, List.isPrefixOf_iff_prefix, ih, List.infix_cons_iff]

/-- The windows of the part's length are just the infixes to compare with, so that the search
over them finds what the plain one finds.
-/
theorem holdsChecked_eq (part list : List UInt8)
    : holdsChecked part list = pure (holds part list) := by
  unfold holdsChecked
  split
  case isTrue empty =>
    obtain rfl := List.isEmpty_iff.mp empty
    rw [(holds_iff [] list).mpr List.nil_infix]
  case isFalse wide =>
    have width : part.length ≠ 0 := by rwa [List.isEmpty_iff, ← List.length_eq_zero_iff] at wide
    have same : (Checked.parts list part.length).any (· = part) = holds part list := by
      rw [Bool.eq_iff_iff, holds_iff, ← Checked.mem_parts, List.any_eq_true]
      simp only [decide_eq_true_eq, exists_eq_right]
    rw [Checked.windows_eq width, Checked.pure_bind, same]

/-- The search by name is safe, since comparing each path is. -/
theorem findByNameChecked_safe (table : Table) (name : String) (exact : Bool)
    : (table.findByNameChecked name exact).Safe (table.findByName? name exact) := by
  refine .findM? fun index => ?_
  cases (table.source.image index).name with
  | none => exact .pure
  | some path =>
      cases exact with
      | true => exact .pure
      | false =>
          simp only [Bool.false_eq_true, if_false, holdsChecked_eq]
          exact .pure

/-- The identifier of a named image is found safely: name, header, first command of its kind
and record are read one after the other.
-/
theorem imageUuidChecked_safe (table : Table) (name : String) (exact : Bool)
    : (table.imageUuidChecked name exact).Safe (table.imageUuid? name exact).value := by
  unfold imageUuidChecked imageUuid?
  refine (table.findByNameChecked_safe name exact).bind ?_
  cases table.findByName? name exact with
  | none => exact .pure
  | some index =>
      dsimp only
      cases (table.source.image index).header with
      | none => exact .pure
      | some address =>
          refine Header.readChecked_safe.bind_noted fun found => ?_
          cases found with
          | none => exact .pure
          | some header =>
              have search
                  : (header.findCommandChecked table.memory fun command =>
                      return (some command).filter (·.kind = Command.uuid)).Safe
                    ((Commands.ofHeader table.memory header).findSome? fun command =>
                      return (some command).filter (·.kind = Command.uuid)).value :=
                Header.findCommandChecked_safe fun _ => .pure
              refine search.bind_noted fun first => ?_
              cases first with
              | none => exact .pure
              | some command => exact Survey.uuidOfChecked_safe table.memory command

-----------------------------------------------------------------------------------------
-- Addresses resolved
-----------------------------------------------------------------------------------------

def coversChecked (table : Table) (address : Address) (index : Nat) : Checked Bool :=
  match (table.source.image index).header with
  | none => return false
  | some start => do
    match ← Header.readChecked table.memory start with
    | none => return false
    | some header =>
      segmentContainsChecked table.memory header
        (address.value - (table.source.image index).slide)

def indexContainingChecked (table : Table) (address : Address) : Checked (Option Nat) :=
  (List.range table.source.count).findM? (table.coversChecked address)

def resolveInChecked (table : Table) (index : Nat) (start : Address) (header : Header)
    (address : Address)
    : Checked (Option Resolution) := do
  let image := table.source.image index
  match ← fileBaseChecked table.memory header with
  | none => return none
  | some linked =>
    let base := linked + image.slide
    if base = 0 then return none
    else
      let symbol ←
        findSymbolChecked table.memory header base (address.value - image.slide)
      return some {
        imageIndex := index
        imageName := image.name
        imageAddress := start
        symbolAddress := symbol.map fun found => ⟨found.value + image.slide⟩
        symbolName := symbol.bind (·.name) }

def resolveChecked (table : Table) (address : Address) : Checked (Option Resolution) := do
  match ← table.indexContainingChecked address with
  | none => return none
  | some index =>
    match (table.source.image index).header with
    | none => return none
    | some start =>
      match ← Header.readChecked table.memory start with
      | none => return none
      | some header => table.resolveInChecked index start header address

/-- Whether an image owns an address is decided safely, from its header and segments. -/
theorem coversChecked_safe (table : Table) (address : Address) (index : Nat)
    : (table.coversChecked address index).Safe (table.covers address index).value := by
  unfold coversChecked covers
  cases (table.source.image index).header with
  | none => exact .pure
  | some start =>
      refine Header.readChecked_safe.bind_noted fun found => ?_
      cases found with
      | none => exact .pure
      | some header => exact segmentContainsChecked_safe _ header _

/-- The first image that owns an address is found safely, since asking each one is. -/
theorem indexContainingChecked_safe (table : Table) (address : Address)
    : (table.indexContainingChecked address).Safe (table.indexContaining? address).value := by
  rw [indexContaining?, findIndex?_value, ← List.range_eq_range']
  exact .findM? (table.coversChecked_safe address)

/-- Resolving within an image is safe: its base in memory is found and its symbols scanned. -/
theorem resolveInChecked_safe (table : Table) (index : Nat) (start : Address)
    (header : Header) (address : Address)
    : (table.resolveInChecked index start header address).Safe
        (table.resolveIn? index start header address).value := by
  refine (fileBaseChecked_safe table.memory header).bind_noted fun found => ?_
  cases found with
  | none => exact .pure
  | some linked =>
      dsimp only
      split
      · exact .pure
      · exact (findSymbolChecked_safe _ header _ _).bind_noted fun _ => .pure

/-- Resolving an address is safe: its image is found first and then searched. -/
theorem resolveChecked_safe (table : Table) (address : Address)
    : (table.resolveChecked address).Safe (table.resolve? address).value := by
  refine (table.indexContainingChecked_safe address).bind_noted fun found => ?_
  cases found with
  | none => exact .pure
  | some index =>
      dsimp only
      cases (table.source.image index).header with
      | none => exact .pure
      | some start =>
          refine Header.readChecked_safe.bind_noted fun found => ?_
          cases found with
          | none => exact .pure
          | some header => exact table.resolveInChecked_safe index start header address

-----------------------------------------------------------------------------------------
-- No question is stopped
-----------------------------------------------------------------------------------------

/-- Every question to the table comes to its answer, and so does every copy of a text. -/
structure Unstopped (table : Table) : Prop where
  describe
    : ∀ address name,
        (table.describeChecked address name).Safe (table.describe? address name).value
  imageAt : ∀ index, (table.imageAtChecked index).Safe (table.imageAt? index).value
  imageUuid
    : ∀ name exact,
        (table.imageUuidChecked name exact).Safe (table.imageUuid? name exact).value
  indexContaining
    : ∀ address,
        (table.indexContainingChecked address).Safe (table.indexContaining? address).value
  resolve : ∀ address, (table.resolveChecked address).Safe (table.resolve? address).value
  copy
    : ∀ (text : StoredText) buffer,
        (text.readChecked table.memory buffer).Safe (text.read? table.memory buffer.length)

/-- What the loops over images in the memory do is limited: the commands that a walk yields by
the count in the header, the records that a search for a section reads by the room in the
segment's command, the entries that a scan visits by the count of the table, and the bytes
that a search for the end of a text reads by its limit.
-/
structure Bounded (memory : Memory) : Prop where
  commands
    : ∀ header,
        (header.foldCommandsChecked memory
            (fun yielded command => return yielded ++ [command]) []).Safe
          (Commands.ofHeader memory header).list
        ∧ (Commands.ofHeader memory header).list.length ≤ header.commandCount
  sections
    : ∀ command segment name, Segment.read? memory command = some segment
        → (segment.findSectionChecked memory name).Gives (segment.findSection? memory name)
            (·.length ≤ (command.size - Segment.headerSize segment.width)
              / Segment.sectionSize segment.width)
  entries
    : ∀ width table (total : UInt32),
        (scanChecked memory width table total.toNat
            (fun visited entry => return visited ++ [entry]) []).Safe
          (entriesFrom memory width table total.toNat 0).value
        ∧ (entriesFrom memory width table total.toNat 0).value.length ≤ total.toNat
  texts
    : ∀ address (limit : UInt64),
        (StoredText.findChecked memory address limit.toNat).Gives
          (StoredText.find? memory address limit.toNat) (Access.total · ≤ limit.toNat)

/-- No question to any table is stopped, by the lemma of each. -/
theorem unstopped (table : Table) : table.Unstopped where
  describe := table.describeChecked_safe
  imageAt := table.imageAtChecked_safe
  imageUuid := table.imageUuidChecked_safe
  indexContaining := table.indexContainingChecked_safe
  resolve := table.resolveChecked_safe
  copy text := text.readChecked_safe table.memory

/-- What a loop collects in order is the list that it goes over. -/
theorem foldl_collect {α : Type} (list : List α)
    : list.foldl (fun done element => done ++ [element]) [] = list := by
  rw [List.foldl_append_eq_append, List.nil_append, ← List.flatMap_def,
    List.flatMap_singleton']

/-- Every loop keeps to its count. The commands and the entries that a loop visits are
collected by it, and what it collects is a list whose length is known.
-/
theorem bounded (memory : Memory) : Bounded memory := by
  constructor
  case commands =>
    intro header
    have walk : (header.foldCommandsChecked memory
          (fun yielded command => return yielded ++ [command]) []).Safe
        ((Commands.ofHeader memory header).list.foldl
          (fun yielded command => yielded ++ [command]) []) :=
      Header.foldCommandsChecked_safe (fun _ _ => .pure) []
    rw [foldl_collect] at walk
    exact ⟨walk, header.length_commands_le memory⟩
  case sections =>
    intro command segment name found
    obtain ⟨room, few⟩ := Segment.sectionCount_of_read? found
    exact (Segment.findSectionChecked_gives few).mono fun _ each => Nat.le_trans each room
  case entries =>
    intro width table total
    have scan : (scanChecked memory width table total.toNat
          (fun visited entry => return visited ++ [entry]) []).Safe
        ((entriesFrom memory width table total.toNat 0).value.foldl
          (fun visited entry => visited ++ [entry]) []) :=
      scanChecked_safe total.toNat_lt (fun _ _ => rfl) []
    rw [foldl_collect] at scan
    exact ⟨scan, length_entriesFrom_le memory width table total.toNat 0⟩
  case texts =>
    exact fun address limit => StoredText.findChecked_gives memory address limit.toNat_lt

/-- Whatever the memory holds, no question about images indexes or slices outside of a buffer,
leaves the range of 64-bit numbers or goes on without end.
-/
theorem queries_stay_in_bounds (table : Table)
    : table.Unstopped ∧ Bounded table.memory :=
  ⟨unstopped table, bounded table.memory⟩

/-- A command with room for one section, whose segment claims nine of them. -/
def crowded : Table where
  source := .ofList []
  memory := .ofRegions [⟨0x8000,
    (([1, 124, 0x41445F5F, 0x4154, 0, 0, 0x1000, 0x1000, 0, 0, 0, 0, 9, 0]
      ++ [0x61645F5F, 0x6174, 0, 0, 0x41445F5F, 0x4154, 0, 0]
      ++ [0x1000, 0x20, 0, 0, 0, 0, 0, 0, 0]).flatMap wordBytes).toArray⟩]

/-- The search for the section reads its record and none of those that are only claimed. -/
theorem queries_stay_in_bounds_of_false_count
    : ∃ segment found,
        Segment.read? crowded.memory ⟨Command.segment, ⟨0x8000⟩, 124⟩ = some segment
        ∧ segment.findSection? crowded.memory "__data" = some found
        ∧ (segment.findSectionChecked crowded.memory "__data").Gives (some found)
            (·.length ≤ 1) := by
  let segment : Segment := {
    name := Text.bytes "__DATA" ++ List.replicate 10 0
    vmAddress := 0x1000
    vmSize := 0x1000
    fileOffset := 0
    width := .narrow
    sectionCount := 1
    sections := ⟨0x8038⟩
  }
  let found : Section := {
    name := Text.bytes "__data" ++ List.replicate 10 0
    address := 0x1000
    size := 0x20
  }
  have read : Segment.read? crowded.memory ⟨Command.segment, ⟨0x8000⟩, 124⟩ = some segment := by
    decide +kernel
  have first : segment.findSection? crowded.memory "__data" = some found := by
    decide +kernel
  have search := (queries_stay_in_bounds crowded).2.sections _ _ "__data" read
  have room : (124 - Segment.headerSize .narrow) / Segment.sectionSize .narrow = 1 := by decide
  rw [first] at search
  exact ⟨segment, found, read, first, search.mono fun _ few => room ▸ few⟩

end Table

end CrashCapture.Image
