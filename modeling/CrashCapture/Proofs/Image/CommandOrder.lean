import CrashCapture.Proofs.Image.CopiedCommands
import CrashCapture.Proofs.Image.CrashRecordApart
import CrashCapture.Proofs.Image.Identifiers

/-! The order of an image's load commands. When commands change places within the area that they
take up, each of them is found somewhere else and says what it said before; so an image whose
commands say everything at most once is described as it was.
-/

namespace CrashCapture.Log

/-- Steps that note the same, and of which what follows is the same, may replace each other. -/
theorem Noted.bind_congr {α β γ : Type} {first : Noted α} {second : Noted β}
    {next : α → Noted γ} {other : β → Noted γ} (notices : first.notices = second.notices)
    (following : next first.value = other second.value)
    : first >>= next = second >>= other := by
  show Noted.mk _ _ = Noted.mk _ _
  rw [notices, following]

end CrashCapture.Log

namespace CrashCapture.Image

open Log (Noted)
open Memory (ChangedWithin)

variable {before after : Memory} {width : Width} {address : Address}

-----------------------------------------------------------------------------------------
-- The commands of an image in another order
-----------------------------------------------------------------------------------------

/-- The commands of an image, all that its walk gets to, are put into another order. Together they
take up as much as before, which is no more than the header declares, and nothing else in memory
changes: what stood behind them, and ended the walk, still does.
-/
structure Header.Reordered (before after : Memory) (header : Header) (order : List Command)
    : Prop where
  perm : order.Perm (Commands.ofHeader before header).list
  declared : Command.total order ≤ header.commandBytes
  copied : Command.AllCopiedTo before after header.firstCommand order
  elsewhere : ChangedWithin header.firstCommand (Command.total order) before after

variable {header : Header} {order : List Command}

/-- Below the place where the area stops there is room for all commands. -/
theorem Header.Reordered.room (reordered : header.Reordered before after order)
    (small : header.commandBytes < UInt32.size) (nonempty : order ≠ [])
    : header.firstCommand.toNat + Command.total order
      ≤ (header.firstCommand.advance header.commandBytes).toNat := by
  have some_command : (Commands.ofHeader before header).list ≠ [] := by
    intro none
    exact nonempty (reordered.perm.trans (none ▸ List.Perm.refl _)).eq_nil
  have starts := Commands.start_le_stop some_command
  have declared := reordered.declared
  have below : header.firstCommand.toNat < UInt64.size := header.firstCommand.value.toNat_lt
  rw [Address.toNat_advance_mod] at starts ⊢
  simp only [UInt64.size, UInt32.size] at *
  omega

/-- The walk over the commands in their new order finds them all and ends as the other one does. -/
theorem Header.Reordered.ofHeader_eq (reordered : header.Reordered before after order)
    (small : header.commandBytes < UInt32.size)
    : Commands.ofHeader after header
      = ⟨Command.placedFrom header.firstCommand order,
          (Commands.ofHeader before header).brokenAt⟩ := by
  obtain ⟨left, counted, ends⟩ := @Commands.walk_rest header.firstCommand
    (header.firstCommand.advance header.commandBytes) before header.commandCount
  have total := Command.total_perm reordered.perm
  rw [Commands.ofHeader] at total
  rw [← total] at ends
  have untouched : after.read? (header.firstCommand.advance (Command.total order))
        Command.minimalSize
      = before.read? (header.firstCommand.advance (Command.total order))
          Command.minimalSize := by
    refine reordered.elsewhere.read?_eq (by decide) fun index within => ?_
    have declared := reordered.declared
    rw [Address.advance_advance]
    refine Address.not_inArea_of_behind (Nat.le_add_right _ _) ?_
    simp only [UInt64.size, UInt32.size, Command.minimalSize] at *
    omega
  have stored : ∀ command ∈ order, command.Stored before := fun command among =>
    Commands.walk_stored command (reordered.perm.mem_iff.mp among)
  have length : order.length + left = header.commandCount :=
    (congrArg (· + left) reordered.perm.length_eq).trans counted.symm
  rw [Commands.ofHeader, ← length, Commands.walk_placedFrom reordered.copied stored
    (reordered.room small)]
  simp only [Commands.walk_nil_of_read? untouched ends, List.append_nil]
  rfl

/-- A header is at the address that it was read from, and says how many bytes its commands take
up in four bytes.
-/
theorem Header.address_of_read? {memory : Memory}
    (read : (read? memory address).value = some header)
    : header.address = address ∧ header.commandBytes < UInt32.size := by
  obtain ⟨_, fields⟩ := read?_value_eq_some_iff.mp read
  obtain ⟨record, _, whole⟩ := Option.map_eq_some_iff.mp fields
  rw [← whole]
  exact ⟨rfl, Memory.field_lt record 20 4⟩

/-- A header stands before its commands, so it is read as before. -/
theorem Header.read?_eq_of_changed {area : Nat}
    (read : (read? before address).value = some header)
    (changed : ChangedWithin header.firstCommand area before after)
    (small : area < UInt32.size)
    : read? after address = read? before address := by
  obtain ⟨magic, fields⟩ := read?_value_eq_some_iff.mp read
  have start : header.firstCommand = address.advance header.width.headerSize := by
    rw [firstCommand, (address_of_read? read).1]
  have same {count : Nat} (positive : 0 < count) (within : count ≤ header.width.headerSize)
      : after.read? address count = before.read? address count := by
    refine changed.read?_eq positive fun index inside => start ▸ ?_
    refine Address.not_inArea_of_before (Nat.lt_of_lt_of_le inside within) ?_
    have short : header.width.headerSize ≤ 32 := by cases header.width <;> decide
    simp only [UInt64.size, UInt32.size] at *
    omega
  have number : after.number? address 4 = before.number? address 4 := by
    rw [Memory.number?, Memory.number?,
      same (by decide) (by cases header.width <;> decide)]
  have whole : readAs? after address header.width = readAs? before address header.width := by
    rw [readAs?, readAs?, same (by cases header.width <;> decide) (Nat.le_refl _)]
  rw [read?, read?, number, magic]
  cases width : header.width with
  | narrow =>
      rw [width] at whole
      dsimp only [Width.magic]
      rw [if_neg (by decide), if_pos rfl, if_neg (by decide), if_pos rfl, whole]
  | wide =>
      rw [width] at whole
      dsimp only [Width.magic]
      rw [if_pos rfl, if_pos rfl, whole]

-----------------------------------------------------------------------------------------
-- What is collected in any order
-----------------------------------------------------------------------------------------

attribute [ext] Survey

/-- The commands of an image that hold its version. -/
def Header.libraryIds (memory : Memory) (header : Header) : List Command :=
  (Commands.ofHeader memory header).list.filter (·.kind = Command.libraryId)

/-- The segments for data of an image that hold a section with crash information. -/
def Header.crashSegments (memory : Memory) (header : Header) : List Segment :=
  (header.segments memory).filter fun segment => segment.crashSections memory ≠ []

/-- The commands of an image say everything that is collected from them at most once. -/
structure Header.SaysOnce (memory : Memory) (header : Header) : Prop where
  text : ((header.segments memory).filter (·.isNamed "__TEXT")).length ≤ 1
  uuid : (header.uuids memory).length ≤ 1
  libraryId : (header.libraryIds memory).length ≤ 1
  crashSegment : (header.crashSegments memory).length ≤ 1

/-- A command for a version replaces the one that was collected before. -/
theorem Survey.add_version (memory : Memory) (width : Width) (survey : Survey)
    (command : Command)
    : (survey.add memory width command).version
      = if command.kind = Command.libraryId then (versionOf? memory command).getD 0
        else survey.version := by
  have kept (segment : Segment)
      : (survey.addSegment memory width segment).version = survey.version := by
    unfold addSegment
    split
    · rfl
    · split <;> rfl
  unfold add
  split
  case isTrue segments =>
    have other : command.kind ≠ Command.libraryId := by
      rcases segments with narrow | wide
      · exact narrow ▸ by decide
      · exact wide ▸ by decide
    rw [if_neg other]
    split
    · rfl
    · exact kept _
  case isFalse =>
    split
    case isTrue uuid =>
      have other : command.kind ≠ Command.libraryId := uuid ▸ by decide
      rw [if_neg other]
    case isFalse => split <;> rfl

/-- One pass over the commands keeps the last version. -/
theorem Survey.foldl_add_version (memory : Memory) (width : Width) (commands : List Command)
    (survey : Survey)
    : (commands.foldl (add memory width) survey).version
      = match (commands.filter (·.kind = Command.libraryId)).getLast? with
        | none => survey.version
        | some command => (versionOf? memory command).getD 0 :=
  foldl_add_last (·.version) _ (add_version memory width) commands survey

/-- There is one order of at most one thing. -/
theorem eq_of_perm_of_length_le_one {α : Type} {first second : List α}
    (perm : first.Perm second) (single : second.length ≤ 1)
    : first = second := by
  match second, single with
  | [], _ => exact perm.eq_nil
  | [_], _ => exact List.perm_singleton.mp perm

/-- Only segments that hold one count for the sections with crash information. -/
theorem flatMap_crashSections (memory : Memory) (segments : List Segment)
    : segments.flatMap (Segment.crashSections memory)
      = (segments.filter fun segment => segment.crashSections memory ≠ []).flatMap
          (Segment.crashSections memory) := by
  induction segments with
  | nil => rfl
  | cons segment rest ih =>
      rw [List.flatMap_cons, ih]
      by_cases none : segment.crashSections memory = []
      · rw [List.filter_cons_of_neg (by simp [none]), none, List.nil_append]
      · rw [List.filter_cons_of_pos (by simp [none]), List.flatMap_cons]

/-- When everything is said at most once, the order in which it is said does not matter. -/
theorem Survey.foldl_add_of_perm {memory : Memory} (once : header.SaysOnce memory)
    (perm : order.Perm (Commands.ofHeader memory header).list)
    : order.foldl (add memory width) {}
      = (Commands.ofHeader memory header).list.foldl (add memory width) {} := by
  have segments := perm.filterMap (Segment.read? memory)
  refine Survey.ext ?_ ?_ ?_ ?_
  · rw [foldl_add_text, foldl_add_text,
      eq_of_perm_of_length_le_one (segments.filter _) once.text]
  · rw [foldl_add_uuid, foldl_add_uuid, eq_of_perm_of_length_le_one (perm.filter _) once.uuid]
  · rw [foldl_add_version, foldl_add_version,
      eq_of_perm_of_length_le_one (perm.filter _) once.libraryId]
  · rw [foldl_add_crashSection, foldl_add_crashSection, flatMap_crashSections,
      flatMap_crashSections memory ((Commands.ofHeader memory header).list.filterMap _),
      eq_of_perm_of_length_le_one (segments.filter _) once.crashSegment]

-----------------------------------------------------------------------------------------
-- The description of an image
-----------------------------------------------------------------------------------------

theorem eq_singleton_of_mem {α : Type} {list : List α} {element : α} (among : element ∈ list)
    (single : list.length ≤ 1)
    : list = [element] := by
  match list, single with
  | [_], _ => rw [List.mem_singleton.mp among]

/-- The one text segment is that of the image. -/
theorem Header.SaysOnce.textAddress {memory : Memory} (once : header.SaysOnce memory)
    {text : Segment} (among : text ∈ header.segments memory)
    (named : text.isNamed "__TEXT" = true)
    : header.textAddress memory = text.vmAddress := by
  have only := eq_singleton_of_mem (List.mem_filter.mpr ⟨among, named⟩) once.text
  rw [Header.textAddress, Header.text?, only]
  rfl

/-- The one segment with crash information holds that of the image. -/
theorem Header.SaysOnce.crashSection? {memory : Memory} (once : header.SaysOnce memory)
    (wide : header.width = .wide) {data : Segment} {found : Section}
    (among : data ∈ header.segments memory)
    (holds : (data.crashSections memory).head? = some found)
    : header.crashSection? memory = some found := by
  have some_section : data.crashSections memory ≠ [] := by
    intro none
    rw [none] at holds
    cases holds
  have only := eq_singleton_of_mem
    (List.mem_filter.mpr ⟨among, decide_eq_true some_section⟩) once.crashSegment
  rw [Header.crashSection?, if_pos wide, Header.crashSections, flatMap_crashSections, only,
    List.flatMap_singleton, holds]

/-- Two memories give the same description of an image when they have the same header, the walks
over its commands break off at the same place, what is collected from them is the same, and so is
what is read of its crash information.
-/
theorem Table.describe?_eq_of_survey {source : Source} {name : Option (List UInt8)}
    (read : (Header.read? before address).value = some header)
    (same_header : Header.read? after address = Header.read? before address)
    (same_end
      : (Commands.ofHeader after header).brokenAt = (Commands.ofHeader before header).brokenAt)
    (same_survey
      : (Commands.ofHeader after header).list.foldl (Survey.add after header.width) {}
        = (Commands.ofHeader before header).list.foldl (Survey.add before header.width) {})
    (same_crash
      : ∀ found,
          header.crashSection? before = some found
          → let start : Address :=
              ⟨found.address + (address.value - header.textAddress before)⟩
            CrashInfo.read after start found.size.toNat
              = CrashInfo.read before start found.size.toNat)
    : describe? ⟨source, after⟩ address name = describe? ⟨source, before⟩ address name := by
  obtain ⟨textOf, sectionOf⟩ := Survey.foldl_add_ofHeader before header
  rw [describe?, describe?, same_header]
  refine Noted.bind_congr rfl ?_
  rw [read]
  dsimp only
  refine Noted.bind_congr ?_ ?_
  · rw [Commands.all, Commands.all, Commands.noteBroken, Commands.noteBroken, same_end]
    rfl
  · simp only [Commands.all, Noted.value_bind, Noted.value_pure, same_survey]
    generalize (Commands.ofHeader before header).list.foldl (Survey.add before header.width) {}
      = collected at *
    cases counted : collected.crashSection with
    | none => rfl
    | some found =>
        dsimp only
        rw [textOf, same_crash found (sectionOf ▸ counted)]

/-- When the load commands of an image change places within the area that they take up, and nothing
else in memory changes, the image is described as before: its commands say everything at most
once, and its crash information is not in that area. The record of this is looked for where the
one section for it has been moved with the one text segment, whichever of them comes first.
-/
theorem Table.describe?_of_reordered {source : Source} {byte? : Nat → Option UInt8}
    (shows : before.Shows byte?) {name : Option (List UInt8)}
    (read : (Header.read? before address).value = some header)
    (reordered : header.Reordered before after order) (once : header.SaysOnce before)
    (apart
      : ∀ found,
          header.crashSection? before = some found
          → CrashInfo.Apart before byte? header.firstCommand (Command.total order)
              ⟨found.address + (address.value - header.textAddress before)⟩
              found.size.toNat)
    : describe? ⟨source, after⟩ address name = describe? ⟨source, before⟩ address name
      ∧ ∀ image text data found,
          (describe? ⟨source, after⟩ address name).value = some image
          → text ∈ header.segments before
          → text.isNamed "__TEXT" = true
          → data ∈ header.segments before
          → (data.crashSections before).head? = some found
          → header.width = .wide
          → image.vmAddress = text.vmAddress
            ∧ image.crashInfo
              = (CrashInfo.read before ⟨found.address + (address.value - text.vmAddress)⟩
                  found.size.toNat).value := by
  have small := (Header.address_of_read? read).2
  have area : Command.total order < UInt32.size :=
    Nat.lt_of_le_of_lt reordered.declared small
  have header_read := Header.read?_eq_of_changed read reordered.elsewhere area
  have commands := reordered.ofHeader_eq small
  have same : describe? ⟨source, after⟩ address name = describe? ⟨source, before⟩ address name := by
    refine describe?_eq_of_survey read header_read (by rw [commands]) ?_ fun found counted =>
      CrashInfo.read_eq_of_apart reordered.elsewhere shows (apart found counted)
    rw [commands, Survey.foldl_add_placedFrom reordered.copied,
      Survey.foldl_add_of_perm once reordered.perm]
  refine ⟨same, fun image text data found described among named data_among holds wide => ?_⟩
  rw [same] at described
  obtain ⟨other, other_read, address_eq, info⟩ := describe?_value_of_segments described
  obtain rfl : header = other := Option.some.inj (read.symm.trans other_read)
  rw [once.textAddress among named] at address_eq info
  rw [once.crashSection? wide data_among holds] at info
  exact ⟨address_eq, info⟩

-----------------------------------------------------------------------------------------
-- An image with its data segment in front
-----------------------------------------------------------------------------------------

/-- The image with crash information, its second command in front of its first one. -/
def turnedImage : List UInt8 :=
  crashedImage.take 32 ++ (crashedImage.drop 104).take 152 ++ (crashedImage.drop 32).take 72
    ++ crashedImage.drop 256

def turnedRegions : List Memory.Region := [⟨0x8000, turnedImage.toArray⟩]

def turned : Table where
  source := .none
  memory := .ofRegions turnedRegions

def crashedHeader : Header where
  address := ⟨0x8000⟩
  width := .wide
  cpuType := 7
  cpuSubtype := 3
  commandCount := 2
  commandBytes := 224

/-- The commands of the turned image, where they are in the other one. -/
def turnedOrder : List Command := [⟨0x19, ⟨0x8068⟩, 152⟩, ⟨0x19, ⟨0x8020⟩, 72⟩]

/-- The bytes outside of the commands are the same in both images. -/
theorem turned_changedWithin
    : ChangedWithin ⟨0x8020⟩ 224 crashed.memory turned.memory :=
  @Memory.ofRegions_changedWithin 224 0x8000 32 crashedImage turnedImage (by decide +kernel)
    (by decide +kernel) (by decide +kernel)

theorem turned_reordered
    : crashedHeader.Reordered crashed.memory turned.memory turnedOrder where
  perm := by
    have commands : (Commands.ofHeader crashed.memory crashedHeader).list
        = [⟨0x19, ⟨0x8020⟩, 72⟩, ⟨0x19, ⟨0x8068⟩, 152⟩] := by
      decide +kernel
    rw [commands]
    exact List.Perm.swap _ _ _
  declared := by decide
  copied := ⟨
    @Command.copiedTo_ofRegions 0x8000 104 32 0x19 152 crashedImage turnedImage (by decide)
      (by decide) (by decide +kernel),
    @Command.copiedTo_ofRegions 0x8000 32 184 0x19 72 crashedImage turnedImage (by decide)
      (by decide) (by decide +kernel),
    trivial⟩
  elsewhere := turned_changedWithin

theorem crashedHeader_saysOnce : crashedHeader.SaysOnce crashed.memory :=
  ⟨by decide +kernel, by decide +kernel, by decide +kernel, by decide +kernel⟩

/-- The record of that image: of its pointers one leads anywhere, to the text behind the record. -/
def crashedRecord : List UInt8 := [5, 0, 0x8128, 0, 0, 0, 0, 0, 0, 0].flatMap Table.wordBytes

/-- Record and text stand behind the commands. -/
theorem crashed_apart
    : CrashInfo.Apart crashed.memory (Memory.regionByte? crashedRegions) ⟨0x8020⟩ 224 ⟨0x8100⟩
        64 where
  record _ := by decide
  texts record _ there _ offset among set := by
    have stored : crashed.memory.read? ⟨0x8100⟩ CrashInfo.recordSize = some crashedRecord := by
      decide +kernel
    obtain rfl := Option.some.inj (stored.symm.trans there)
    have only : ∀ offset ∈ CrashInfo.pointers,
        CrashInfo.pointed crashedRecord offset ≠ .null
        → CrashInfo.pointed crashedRecord offset = (⟨0x8020⟩ : Address).advance 264 := by
      decide +kernel
    rw [only offset among set]
    intro index below inside
    rw [Address.advance_advance] at inside
    refine absurd inside (Address.not_inArea_of_behind (by omega) ?_)
    simp only [CrashInfo.longestText, UInt64.size] at *
    omega

/-- With its data segment in front of its text the image has the same description, and the message
in it was found by the slide of the text.
-/
theorem Table.describe?_of_reordered_of_data_first
    : (crashedHeader.segments turned.memory).map (·.vmAddress) = [0x2000, 0x1000]
      ∧ ∃ image,
          (turned.describe? ⟨0x8000⟩ none).value = some image
          ∧ (crashed.describe? ⟨0x8000⟩ none).value = some image
          ∧ image.slide = 0x7000
          ∧ image.crashInfo = { message := some ⟨⟨0x8128⟩, 4⟩ } := by
  have read : (Header.read? crashed.memory ⟨0x8000⟩).value = some crashedHeader := by
    decide +kernel
  have shows := (Memory.ofRegions_bytewise crashedRegions).shows
  have located : crashedHeader.crashSection? crashed.memory
      = some ⟨Text.bytes "__crash_info" ++ List.replicate 4 0, 0x1100, 64⟩ := by
    decide +kernel
  have address : crashedHeader.textAddress crashed.memory = 0x1000 := by decide +kernel
  obtain ⟨same, _⟩ := @Table.describe?_of_reordered crashed.memory turned.memory ⟨0x8000⟩
    crashedHeader turnedOrder .none _ shows none read turned_reordered crashedHeader_saysOnce
    fun found counted => by
      obtain rfl := Option.some.inj (located.symm.trans counted)
      rw [address]
      exact crashed_apart
  have described : (crashed.describe? ⟨0x8000⟩ none).value.map
        (fun image => (image.slide, image.crashInfo))
      = some (0x7000, { message := some ⟨⟨0x8128⟩, 4⟩ }) := by
    decide +kernel
  obtain ⟨image, here, told⟩ := Option.map_eq_some_iff.mp described
  obtain ⟨slide, info⟩ := Prod.mk.inj told
  exact ⟨by decide +kernel, image, (congrArg Noted.value same).trans here, here, slide, info⟩

end CrashCapture.Image
