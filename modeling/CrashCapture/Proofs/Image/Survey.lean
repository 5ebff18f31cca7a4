import CrashCapture.Image.Table
import CrashCapture.Proofs.Image.Segments
import CrashCapture.Proofs.Text.Bytes

/-! What a pass over the load commands collects from the segments of an image. Of its text
segments the last one counts; of the sections with crash information in its data segments the
first one.
-/

namespace CrashCapture.Image

open Log (Noted)

variable {memory : Memory} {width : Width}

/-- The sections of a segment that can be read. -/
def Segment.readableSections (memory : Memory) (segment : Segment) : List Section :=
  (List.range segment.sectionCount).filterMap (segment.sectionAt? memory)

/-- The sections with crash information that a segment holds when it is one for data. -/
def Segment.crashSections (memory : Memory) (segment : Segment) : List Section :=
  if segment.isNamed "__DATA" then
    (segment.readableSections memory).filter fun found => hasFixedName found.name "__crash_info"
  else []

/-- The sections with crash information of an image, in the order of its load commands. -/
def Header.crashSections (memory : Memory) (header : Header) : List Section :=
  (header.segments memory).flatMap (Segment.crashSections memory)

/-- The section that crash information is taken from: the first one, if addresses are wide. -/
def Header.crashSection? (memory : Memory) (header : Header) : Option Section :=
  if header.width = .wide then (header.crashSections memory).head? else none

/-- The last text segment of an image. -/
def Header.text? (memory : Memory) (header : Header) : Option Segment :=
  ((header.segments memory).filter (·.isNamed "__TEXT")).getLast?

/-- The linked address of an image's text; zero when it has none. -/
def Header.textAddress (memory : Memory) (header : Header) : UInt64 :=
  ((header.text? memory).map (·.vmAddress)).getD 0

theorem Segment.findSection?_eq (memory : Memory) (segment : Segment) (name : String)
    : segment.findSection? memory name
      = (segment.readableSections memory).find? fun found => hasFixedName found.name name :=
  findSome?_filter (segment.sectionAt? memory) (fun found => hasFixedName found.name name) _

/-- A field that has one name has no other. -/
theorem hasFixedName_unique {field : List UInt8} {name other : String}
    (named : hasFixedName field name = true) (differ : name ≠ other)
    : hasFixedName field other = false := by
  simp only [hasFixedName, decide_eq_true_eq, decide_eq_false_iff_not] at *
  rw [named]
  exact fun same => differ (Text.bytes_inj same)

namespace Survey

/-- A command that describes no segment leaves what was collected from segments. -/
theorem add_of_read?_none {command : Command} (survey : Survey)
    (absent : Segment.read? memory command = none)
    : (survey.add memory width command).text = survey.text
      ∧ (survey.add memory width command).crashSection = survey.crashSection := by
  rw [add, absent]
  split
  · exact ⟨rfl, rfl⟩
  · split
    · exact ⟨rfl, rfl⟩
    · split <;> exact ⟨rfl, rfl⟩

/-- A command that describes a segment adds this segment and nothing else. -/
theorem add_of_read?_some {command : Command} {segment : Segment} (survey : Survey)
    (found : Segment.read? memory command = some segment)
    : survey.add memory width command = survey.addSegment memory width segment := by
  have kind : command.kind = Command.segment ∨ command.kind = Command.segmentWide := by
    rw [Segment.read?, Segment.widthOf?] at found
    split at found
    case h_1 => cases found
    case h_2 width some_width =>
      split at some_width
      case isTrue wide => exact .inr wide
      case isFalse =>
        split at some_width
        case isTrue narrow => exact .inl narrow
        case isFalse => cases some_width
  rw [add, if_pos kind, found]

/-- A text segment replaces the one that was collected before. -/
theorem addSegment_text (survey : Survey) (segment : Segment)
    : (survey.addSegment memory width segment).text
      = if segment.isNamed "__TEXT" then some (segment.vmAddress, segment.vmSize)
        else survey.text := by
  unfold addSegment
  split
  · rfl
  · split <;> rfl

/-- A section with crash information is kept when it is the first one of an image with wide
addresses.
-/
theorem addSegment_crashSection (survey : Survey) (segment : Segment)
    : (survey.addSegment memory width segment).crashSection
      = survey.crashSection.or
          (if width = .wide then (segment.crashSections memory).head? else none) := by
  unfold addSegment Segment.crashSections
  split
  case isTrue text =>
    have noData : segment.isNamed "__DATA" = false := hasFixedName_unique text (by decide)
    simp [noData]
  case isFalse =>
    cases width with
    | narrow => simp
    | wide => by_cases data : segment.isNamed "__DATA" = true <;>
        simp [data, Segment.findSection?_eq, List.head?_filter]

/-- The pass keeps the last text segment, by induction on the commands left. -/
theorem foldl_add_text (commands : List Command) (survey : Survey)
    : (commands.foldl (add memory width) survey).text
      = ((((commands.filterMap (Segment.read? memory)).filter
          (·.isNamed "__TEXT")).getLast?.map fun segment =>
            (segment.vmAddress, segment.vmSize))).or survey.text := by
  induction commands generalizing survey with
  | nil => rfl
  | cons command rest ih =>
      rw [List.foldl_cons, ih]
      cases found : Segment.read? memory command with
      | none => rw [List.filterMap_cons_none found, (add_of_read?_none survey found).1]
      | some segment =>
          rw [List.filterMap_cons_some found, add_of_read?_some survey found,
            addSegment_text]
          by_cases text : segment.isNamed "__TEXT" = true
          · rw [if_pos text, List.filter_cons_of_pos (by exact text), List.getLast?_cons]
            cases (((rest.filterMap (Segment.read? memory)).filter
              (·.isNamed "__TEXT")).getLast?) <;> rfl
          · rw [if_neg text, List.filter_cons_of_neg (by exact text)]

/-- The pass keeps the first section with crash information, by induction on the commands
left.
-/
theorem foldl_add_crashSection (commands : List Command) (survey : Survey)
    : (commands.foldl (add memory width) survey).crashSection
      = survey.crashSection.or
          (if width = .wide then
            ((commands.filterMap (Segment.read? memory)).flatMap
              (Segment.crashSections memory)).head?
          else none) := by
  induction commands generalizing survey with
  | nil => simp
  | cons command rest ih =>
      rw [List.foldl_cons, ih]
      cases found : Segment.read? memory command with
      | none => rw [List.filterMap_cons_none found, (add_of_read?_none survey found).2]
      | some segment =>
          rw [List.filterMap_cons_some found, add_of_read?_some survey found,
            addSegment_crashSection, List.flatMap_cons, List.head?_append, Option.or_assoc]
          cases width <;> rfl

/-- The pass over all commands of an image ends with the address of its text and with the
section that its crash information is taken from.
-/
theorem foldl_add_ofHeader (memory : Memory) (header : Header)
    : let survey := (Commands.ofHeader memory header).list.foldl (add memory header.width) {}
      (survey.text.getD (0, 0)).1 = header.textAddress memory
        ∧ survey.crashSection = header.crashSection? memory := by
  constructor
  · rw [foldl_add_text, Option.or_none, Header.textAddress, Header.text?, Header.segments]
    cases (((Commands.ofHeader memory header).list.filterMap (Segment.read? memory)).filter
      (·.isNamed "__TEXT")).getLast? <;> rfl
  · rw [foldl_add_crashSection, Option.none_or]
    rfl

end Survey

/-- What an image is described by as far as it is collected from segments: the linked address
of its last text segment, and what is read at its section with crash information, moved with
the text.
-/
theorem Table.describe?_value_of_segments {table : Table} {address : Address}
    {name : Option (List UInt8)} {image : Description}
    (described : (table.describe? address name).value = some image)
    : ∃ header,
        (Header.read? table.memory address).value = some header
        ∧ image.vmAddress = header.textAddress table.memory
        ∧ image.crashInfo
          = match header.crashSection? table.memory with
            | none => {}
            | some found =>
              (CrashInfo.read table.memory
                ⟨found.address + (address.value - header.textAddress table.memory)⟩
                found.size.toNat).value := by
  rw [describe?, Noted.value_bind] at described
  cases read : (Header.read? table.memory address).value with
  | none =>
      rw [read] at described
      cases described
  | some header =>
      obtain ⟨textOf, sectionOf⟩ := Survey.foldl_add_ofHeader table.memory header
      simp only [read, Noted.value_bind, Noted.value_pure, Commands.all, textOf, sectionOf]
        at described
      refine ⟨header, rfl, ?_⟩
      cases counted : header.crashSection? table.memory with
      | none =>
          rw [counted] at described
          obtain rfl := Option.some.inj described
          exact ⟨rfl, rfl⟩
      | some found =>
          rw [counted] at described
          obtain rfl := Option.some.inj described
          exact ⟨rfl, rfl⟩

end CrashCapture.Image
