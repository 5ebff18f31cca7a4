import CrashCapture.Image.Segment

/-! The segments of an image as one list, in the order of its load commands. What the code
asks of an image's segments one command after another is a question about that list.
-/

namespace CrashCapture.Image

open Log (Noted)

/-- A search over a walk gives the first answer among its commands. -/
theorem Commands.findSome?_value {α : Type} (commands : Commands)
    (choose : Command → Noted (Option α))
    : (commands.findSome? choose).value
      = commands.list.findSome? fun command => (choose command).value := by
  have go (list : List Command)
      : (findSome?.go commands choose list).value
        = list.findSome? fun command => (choose command).value := by
    induction list with
    | nil => rfl
    | cons command rest ih =>
        rw [findSome?.go, List.findSome?_cons, Noted.value_bind]
        cases (choose command).value with
        | none => exact ih
        | some answer => rfl
  exact go commands.list

/-- The number that a header of a width starts with. -/
def Width.magic : Width → Nat
  | .narrow => Header.magicNarrow
  | .wide => Header.magicWide

/-- A header keeps the width that it was read with. -/
theorem Header.width_of_readAs? {memory : Memory} {start : Address} {width : Width}
    {header : Header} (read : readAs? memory start width = some header)
    : header.width = width := by
  obtain ⟨record, _, rfl⟩ := Option.map_eq_some_iff.mp read
  rfl

/-- A header is read where its magic number stands and all of it can be read. -/
theorem Header.read?_value_eq_some_iff {memory : Memory} {start : Address} {header : Header}
    : (read? memory start).value = some header
      ↔ memory.number? start 4 = some header.width.magic
        ∧ readAs? memory start header.width = some header := by
  have differs {width : Width} (other : header.width ≠ width)
      : readAs? memory start width ≠ some header :=
    fun read => other (width_of_readAs? read)
  have magics : magicNarrow ≠ magicWide := by decide
  rw [read?]
  cases number : memory.number? start 4 with
  | none => simp
  | some magic =>
      by_cases wide : magic = magicWide
      · subst wide
        cases width : header.width with
        | wide => simp [Width.magic]
        | narrow =>
            have notWide := differs (show header.width ≠ .wide by simp [width])
            simp [Width.magic, magics.symm, notWide]
      · by_cases narrow : magic = magicNarrow
        · subst narrow
          cases width : header.width with
          | wide =>
              have notNarrow := differs (show header.width ≠ .narrow by simp [width])
              simp [Width.magic, magics, notNarrow]
          | narrow => simp [Width.magic, magics]
        · cases header.width <;> simp [Width.magic, wide, narrow, eq_comm]

/-- The segments that an image's load commands describe. -/
def Header.segments (memory : Memory) (header : Header) : List Segment :=
  (Commands.ofHeader memory header).list.filterMap (Segment.read? memory)

/-- Whether a linked address lies in the segment, counted in whole numbers. -/
def Segment.Covers (segment : Segment) (linked : UInt64) : Prop :=
  segment.vmAddress.toNat ≤ linked.toNat
  ∧ linked.toNat < segment.vmAddress.toNat + segment.vmSize.toNat

/-- The comparison that cannot wrap agrees with whole numbers. -/
theorem Segment.contains_iff {segment : Segment} {linked : UInt64}
    : segment.contains linked = true ↔ segment.Covers linked := by
  simp only [contains, Covers, Bool.and_eq_true, decide_eq_true_eq,
    UInt64.le_iff_toNat_le, UInt64.lt_iff_toNat_lt]
  constructor
  · rintro ⟨above, below⟩
    rw [UInt64.toNat_sub_of_le _ _ above] at below
    exact ⟨above, by omega⟩
  · rintro ⟨above, below⟩
    rw [UInt64.toNat_sub_of_le _ _ above]
    exact ⟨above, by omega⟩

/-- A search for a result that passes a test is one in the list of results. -/
theorem findSome?_filter {α β : Type} (find : α → Option β) (test : β → Bool) (list : List α)
    : (list.findSome? fun element => (find element).filter test)
      = (list.filterMap find).find? test := by
  induction list with
  | nil => rfl
  | cons element rest ih =>
      rw [List.findSome?_cons, List.filterMap_cons]
      cases find element with
      | none => exact ih
      | some found =>
          cases passes : test found with
          | true => simp only [Option.filter_some_pos passes, List.find?_cons, passes]
          | false =>
              simp only [Option.filter_some_neg passes, List.find?_cons, passes]
              exact ih

/-- A search among the segments of the commands is one in the list of segments. -/
theorem Header.findSegment?_value (memory : Memory) (header : Header)
    (test : Segment → Bool)
    : ((Commands.ofHeader memory header).findSome? fun command =>
          return (Segment.read? memory command).filter test).value
      = (header.segments memory).find? test := by
  rw [Commands.findSome?_value, segments]
  exact findSome?_filter (Segment.read? memory) test _

theorem segmentContains_value {memory : Memory} {header : Header} {linked : UInt64}
    : (segmentContains memory header linked).value = true
      ↔ ∃ segment ∈ header.segments memory, segment.Covers linked := by
  have found := header.findSegment?_value memory (·.contains linked)
  simp only [segmentContains, Noted.value_bind, Noted.value_pure, found, List.find?_isSome,
    Segment.contains_iff]

/-- The first segment that holds the tables of the image. -/
def Header.linkEdit? (memory : Memory) (header : Header) : Option Segment :=
  (header.segments memory).find? (·.isNamed "__LINKEDIT")

theorem fileBase?_value (memory : Memory) (header : Header)
    : (fileBase? memory header).value
      = (header.linkEdit? memory).map fun segment =>
          segment.vmAddress - segment.fileOffset := by
  have found := header.findSegment?_value memory (·.isNamed "__LINKEDIT")
  simp only [fileBase?, Noted.value_bind, Noted.value_pure, found, Header.linkEdit?]

end CrashCapture.Image
