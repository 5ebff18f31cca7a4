import CrashCapture.Memory.Regions
import CrashCapture.Proofs.Image.Resolution
import CrashCapture.Proofs.Image.SymbolChunks

/-! The symbol that is found for an address. A chunked scan that keeps the closest entry so far,
table by table, comes to one declarative choice: of the first table that has an eligible entry
at all, the eligible entry of greatest value, and the last one of these.
-/

namespace CrashCapture.Image

open Log (Noted)

-----------------------------------------------------------------------------------------
-- The closest entry
-----------------------------------------------------------------------------------------

/-- An entry that can be the symbol of an address: it is not one for debuggers, has a value, and
its value is not above the address.
-/
structure SymbolEntry.Eligible (address : UInt64) (entry : SymbolEntry) : Prop where
  plain : entry.kind &&& 0xE0 = 0
  positive : 0 < entry.value.toNat
  below : entry.value.toNat ≤ address.toNat

/-- The test of an entry is whether it is eligible. -/
theorem SymbolEntry.isCandidate_iff {address : UInt64} {entry : SymbolEntry}
    : entry.isCandidate address = true ↔ entry.Eligible address := by
  have positive : entry.value ≠ 0 ↔ 0 < entry.value.toNat := by
    rw [Nat.pos_iff_ne_zero, ne_eq, ne_eq, ← UInt64.toNat_inj]
    rfl
  simp only [isCandidate, Bool.and_eq_true, decide_eq_true_eq, positive,
    UInt64.le_iff_toNat_le]
  constructor
  · rintro ⟨⟨plain, positive⟩, below⟩
    exact ⟨plain, positive, below⟩
  · rintro ⟨plain, positive, below⟩
    exact ⟨⟨plain, positive⟩, below⟩

/-- Of all eligible entries this one has the greatest value, and it is the last one of that
value.
-/
structure Closest (address : UInt64) (entries : List SymbolEntry) (place : Nat)
    (entry : SymbolEntry)
    : Prop where
  listed : entries[place]? = some entry
  eligible : entry.Eligible address
  nearest
    : ∀ other found,
        entries[other]? = some found
        → found.Eligible address
        → found.value.toNat < entry.value.toNat
          ∨ found.value.toNat = entry.value.toNat ∧ other ≤ place

/-- There is one closest entry at most, since later ones win. -/
theorem Closest.unique {address : UInt64} {entries : List SymbolEntry} {place other : Nat}
    {entry found : SymbolEntry} (left : Closest address entries place entry)
    (right : Closest address entries other found)
    : entry = found := by
  have ahead := left.nearest other found right.listed right.eligible
  have back := right.nearest place entry left.listed left.eligible
  obtain rfl : place = other := by omega
  exact Option.some.inj (left.listed.symm.trans right.listed)

/-- What is kept of the entries seen so far: the closest one, if any is eligible. -/
def Kept (address : UInt64) (seen : List SymbolEntry) : Option SymbolEntry → Prop
  | none => ∀ entry ∈ seen, ¬ entry.Eligible address
  | some entry => ∃ place, Closest address seen place entry

/-- An entry behind others is one of these, or the last one. -/
theorem getElem?_concat_cases {seen : List SymbolEntry} {last found : SymbolEntry}
    {place : Nat} (listed : (seen ++ [last])[place]? = some found)
    : place < seen.length ∧ seen[place]? = some found
      ∨ place = seen.length ∧ found = last := by
  rcases Nat.lt_trichotomy place seen.length with before | rfl | past
  · rw [List.getElem?_append_left before] at listed
    exact .inl ⟨before, listed⟩
  · rw [List.getElem?_concat_length] at listed
    exact .inr ⟨rfl, (Option.some.inj listed).symm⟩
  · rw [List.getElem?_eq_none (by simp only [List.length_append, List.length_singleton]; omega)]
      at listed
    cases listed

/-- An entry stays the closest one when the next one is not eligible or has a smaller value. -/
theorem Closest.concat {address : UInt64} {seen : List SymbolEntry} {place : Nat}
    {entry last : SymbolEntry} (closest : Closest address seen place entry)
    (smaller : last.Eligible address → last.value.toNat < entry.value.toNat)
    : Closest address (seen ++ [last]) place entry := by
  have inside : place < seen.length := (List.getElem?_eq_some_iff.mp closest.listed).1
  refine ⟨?_, closest.eligible, fun other found listed eligible => ?_⟩
  · rw [List.getElem?_append_left inside]
    exact closest.listed
  · rcases getElem?_concat_cases listed with ⟨_, earlier⟩ | ⟨_, rfl⟩
    · exact closest.nearest other found earlier eligible
    · exact .inl (smaller eligible)

/-- An eligible entry behind others is the closest one when none of them has a greater value. -/
theorem Closest.last {address : UInt64} {seen : List SymbolEntry} {last : SymbolEntry}
    (eligible : last.Eligible address)
    (greatest
      : ∀ entry ∈ seen, entry.Eligible address → entry.value.toNat ≤ last.value.toNat)
    : Closest address (seen ++ [last]) seen.length last := by
  refine ⟨List.getElem?_concat_length, eligible, fun other found listed eligible => ?_⟩
  rcases getElem?_concat_cases listed with ⟨before, earlier⟩ | ⟨rfl, rfl⟩
  · have atMost := greatest found (List.mem_of_getElem? earlier) eligible
    omega
  · exact .inr ⟨rfl, Nat.le_refl _⟩

/-- Of two values that are not above an address the greater one is the nearer one. -/
theorem nearer_iff {address first second : UInt64} (left : first.toNat ≤ address.toNat)
    (right : second.toNat ≤ address.toNat)
    : address - first ≤ address - second ↔ second.toNat ≤ first.toNat := by
  rw [UInt64.le_iff_toNat_le,
    UInt64.toNat_sub_of_le _ _ (UInt64.le_iff_toNat_le.mpr left),
    UInt64.toNat_sub_of_le _ _ (UInt64.le_iff_toNat_le.mpr right)]
  omega

/-- A step of the scan keeps the closest of the entries that were seen. -/
theorem Kept.closer {address : UInt64} {seen : List SymbolEntry}
    {best : Option SymbolEntry} (kept : Kept address seen best) (entry : SymbolEntry)
    : Kept address (seen ++ [entry]) (closer address best entry) := by
  unfold Image.closer
  split
  case isTrue candidate =>
    have eligible := SymbolEntry.isCandidate_iff.mp candidate
    cases best with
    | none =>
        exact ⟨seen.length, .last eligible fun other member otherEligible =>
          absurd otherEligible (kept other member)⟩
    | some found =>
        obtain ⟨place, closest⟩ := kept
        have nearer := nearer_iff eligible.below closest.eligible.below
        dsimp only
        split
        case isTrue near =>
          have notBelow := nearer.mp near
          refine ⟨seen.length, .last eligible fun other member otherEligible => ?_⟩
          obtain ⟨earlier, listed⟩ := List.mem_iff_getElem?.mp member
          have atMost := closest.nearest earlier other listed otherEligible
          omega
        case isFalse far =>
          exact ⟨place, closest.concat fun _ => Nat.lt_of_not_le (far ∘ nearer.mpr)⟩
  case isFalse skipped =>
    have ineligible := skipped ∘ SymbolEntry.isCandidate_iff.mpr
    cases best with
    | none =>
        intro other member
        rcases List.mem_append.mp member with earlier | here
        · exact kept other earlier
        · exact List.mem_singleton.mp here ▸ ineligible
    | some found =>
        obtain ⟨place, closest⟩ := kept
        exact ⟨place, closest.concat fun eligible => absurd eligible ineligible⟩

/-- A scan keeps the closest entry of all, by induction on the entries left. -/
theorem Kept.foldl {address : UInt64} {seen entries : List SymbolEntry}
    {best : Option SymbolEntry} (kept : Kept address seen best)
    : Kept address (seen ++ entries) (entries.foldl (Image.closer address) best) := by
  induction entries generalizing seen best with
  | nil => rwa [List.append_nil]
  | cons entry rest ih =>
      have next := ih (kept.closer entry)
      rwa [List.append_assoc] at next

/-- The scan keeps the closest of the entries that it went over. -/
theorem kept_foldl (address : UInt64) (entries : List SymbolEntry)
    : Kept address entries (entries.foldl (closer address) none) :=
  @Kept.foldl address [] entries none fun _ none => absurd none List.not_mem_nil

/-- A scan ends with an entry exactly when it is the closest one. -/
theorem foldl_closer_eq_some_iff {address : UInt64} {entries : List SymbolEntry}
    {entry : SymbolEntry}
    : entries.foldl (closer address) none = some entry
      ↔ ∃ place, Closest address entries place entry := by
  have kept := kept_foldl address entries
  constructor
  · intro ends
    rw [ends] at kept
    exact kept
  · rintro ⟨place, closest⟩
    cases ends : entries.foldl (closer address) none with
    | none =>
        rw [ends] at kept
        exact absurd closest.eligible (kept entry (List.mem_of_getElem? closest.listed))
    | some found =>
        rw [ends] at kept
        obtain ⟨other, alsoClosest⟩ := kept
        rw [alsoClosest.unique closest]

/-- The scan keeps nothing where nothing is eligible. -/
theorem foldl_closer_eq_none_iff {address : UInt64} {entries : List SymbolEntry}
    : entries.foldl (closer address) none = none
      ↔ ∀ entry ∈ entries, ¬ entry.Eligible address := by
  have kept := kept_foldl address entries
  constructor
  · intro ends
    rw [ends] at kept
    exact kept
  · intro ineligible
    cases ends : entries.foldl (closer address) none with
    | none => rfl
    | some found =>
        obtain ⟨place, closest⟩ := foldl_closer_eq_some_iff.mp ends
        exact absurd closest.eligible
          (ineligible found (List.mem_of_getElem? closest.listed))

-----------------------------------------------------------------------------------------
-- One table
-----------------------------------------------------------------------------------------

namespace SymbolTable

variable {memory : Memory} {width : Width} {base address : UInt64} {command : Command}
  {table : SymbolTable} {entry : SymbolEntry}

/-- The table that a command describes: the places of its entries and texts are counted from
`base` and wrap.
-/
structure DescribedBy (memory : Memory) (base : UInt64) (command : Command)
    (table : SymbolTable)
    : Prop where
  kind : command.kind = Command.symbolTable
  sized : 24 ≤ command.size
  record
    : ∃ record,
        memory.read? command.address 24 = some record
        ∧ table.entries = ⟨base + .ofNat (Memory.field record 8 4)⟩
        ∧ table.count = Memory.field record 12 4
        ∧ table.texts = ⟨base + .ofNat (Memory.field record 16 4)⟩
        ∧ table.textBytes = Memory.field record 20 4

/-- A table is read exactly as its command describes it. -/
theorem read?_eq_some_iff
    : read? memory base command = some table ↔ table.DescribedBy memory base command := by
  rw [read?, Command.record?]
  constructor
  · intro read
    split at read
    case isTrue => cases read
    case isFalse kind =>
      obtain ⟨record, found, rfl⟩ := Option.map_eq_some_iff.mp read
      split at found
      case isTrue => cases found
      case isFalse sized =>
        exact ⟨Decidable.not_not.mp kind, Nat.le_of_not_lt sized, record, found, rfl, rfl, rfl,
          rfl⟩
  · rintro ⟨kind, sized, record, found, entries, count, texts, textBytes⟩
    rw [if_neg (Decidable.not_not.mpr kind), if_neg (Nat.not_lt_of_le sized), found,
      Option.map_some, ← entries, ← count, ← texts, ← textBytes]

/-- The text that an entry names, as far as the texts of the table go. -/
def text? (memory : Memory) (table : SymbolTable) (entry : SymbolEntry) : Option StoredText :=
  StoredText.find? memory (table.texts.advance entry.nameOffset)
    (table.textBytes - entry.nameOffset)

/-- The name of an entry. There is none for the lone symbol of a stripped image, beyond the
texts, and where no text is found; and one underscore at its start is left out.
-/
inductive Names (memory : Memory) (table : SymbolTable) (entry : SymbolEntry)
    : Option StoredText → Prop where
  | stripped (mark : entry.description = 16) : Names memory table entry none
  | beyond (past : table.textBytes ≤ entry.nameOffset) : Names memory table entry none
  | absent (unfound : table.text? memory entry = none) : Names memory table entry none
  | plain {text} (unmarked : entry.description ≠ 16)
    (within : entry.nameOffset < table.textBytes)
    (found : table.text? memory entry = some text)
    (other : text.length = 0 ∨ memory.read? text.address 1 ≠ some [0x5F])
    : Names memory table entry (some text)
  | underscored {text} (unmarked : entry.description ≠ 16)
    (within : entry.nameOffset < table.textBytes)
    (found : table.text? memory entry = some text)
    (some_bytes : text.length ≠ 0) (underscore : memory.read? text.address 1 = some [0x5F])
    : Names memory table entry (some ⟨text.address.advance 1, text.length - 1⟩)

/-- One underscore is removed when it is there and can be read. -/
theorem withoutUnderscore_eq (text : StoredText)
    : text.withoutUnderscore memory
      = if text.length ≠ 0 ∧ memory.read? text.address 1 = some [0x5F]
        then ⟨text.address.advance 1, text.length - 1⟩
        else text := by
  simp only [StoredText.withoutUnderscore, Bool.and_eq_true, decide_eq_true_eq]
  split
  case isTrue starts =>
    have first : min 1 text.length = 1 := by omega
    rw [StoredText.skip, first]
  case isFalse => rfl

/-- The name of an entry is what the table has for it. -/
theorem names_iff {name : Option StoredText}
    : table.Names memory entry name ↔ table.nameOf? memory entry = name := by
  have stripping : strippedDescription = 16 := rfl
  rw [nameOf?, ← text?]
  simp only [Bool.or_eq_true, decide_eq_true_eq]
  constructor
  · intro names
    cases names with
    | stripped mark => rw [if_pos (.inl mark)]
    | beyond past => rw [if_pos (.inr past)]
    | absent unfound => rw [unfound, Option.map_none, ite_self]
    | plain unmarked within found other =>
        rw [if_neg (by omega), found, Option.map_some, withoutUnderscore_eq,
          if_neg fun starts => other.elim starts.1 (absurd starts.2)]
    | underscored unmarked within found some_bytes underscore =>
        rw [if_neg (by omega), found, Option.map_some, withoutUnderscore_eq,
          if_pos ⟨some_bytes, underscore⟩]
  · rintro rfl
    by_cases mark : entry.description = strippedDescription
    · rw [if_pos (.inl mark)]
      exact .stripped mark
    · by_cases past : table.textBytes ≤ entry.nameOffset
      · rw [if_pos (.inr past)]
        exact .beyond past
      · rw [if_neg (not_or.mpr ⟨mark, past⟩)]
        have within := Nat.lt_of_not_le past
        cases found : table.text? memory entry with
        | none => exact .absent found
        | some text =>
            rw [Option.map_some, withoutUnderscore_eq]
            split
            case isTrue starts => exact .underscored mark within found starts.1 starts.2
            case isFalse other =>
              refine .plain mark within found ?_
              rwa [Decidable.not_and_iff_or_not, Decidable.not_not] at other

/-- The symbol of an address in one table: the closest entry with its name. -/
def Matches (memory : Memory) (width : Width) (address : UInt64) (table : SymbolTable)
    (found : SymbolMatch)
    : Prop :=
  ∃ place entry,
    Closest address (table.considered memory width) place entry
    ∧ found.value = entry.value
    ∧ table.Names memory entry found.name

/-- No entry of a table can be the symbol of an address. -/
def Lacks (memory : Memory) (width : Width) (address : UInt64) (table : SymbolTable) : Prop :=
  ∀ entry ∈ table.considered memory width, ¬ entry.Eligible address

/-- The search through one table finds nothing where it lacks the symbol. -/
theorem findSymbol?_value_eq_none_iff
    : (table.findSymbol? memory width address).value = none
      ↔ table.Lacks memory width address := by
  simp only [findSymbol?, Noted.value_bind, Noted.value_pure, Option.map_eq_none_iff,
    entriesFrom_zero_value]
  exact foldl_closer_eq_none_iff

/-- The search through one table finds exactly what matches. -/
theorem findSymbol?_value_eq_some_iff {found : SymbolMatch}
    : (table.findSymbol? memory width address).value = some found
      ↔ table.Matches memory width address found := by
  simp only [findSymbol?, Noted.value_bind, Noted.value_pure, Option.map_eq_some_iff,
    entriesFrom_zero_value, foldl_closer_eq_some_iff]
  constructor
  · rintro ⟨entry, ⟨place, closest⟩, rfl⟩
    exact ⟨place, entry, closest, rfl, names_iff.mpr rfl⟩
  · rintro ⟨place, entry, closest, value, names⟩
    refine ⟨entry, ⟨place, closest⟩, ?_⟩
    rw [names_iff.mp names, ← value]

end SymbolTable

-----------------------------------------------------------------------------------------
-- All tables of an image
-----------------------------------------------------------------------------------------

variable {memory : Memory} {header : Header} {base address : UInt64}

/-- What an image has of a symbol for an address. Tables in which no entry can be the symbol are
passed over, and the first other one decides.
-/
inductive SymbolFor (memory : Memory) (header : Header) (base address : UInt64)
    : Option SymbolMatch → Prop where
  | absent
    (lacking
      : ∀ command ∈ (Commands.ofHeader memory header).list, ∀ table : SymbolTable,
          table.DescribedBy memory base command → table.Lacks memory header.width address)
    : SymbolFor memory header base address none
  | found {before command after} {table : SymbolTable} {symbol}
    (walk : (Commands.ofHeader memory header).list = before ++ command :: after)
    (lacking
      : ∀ earlier ∈ before, ∀ other : SymbolTable,
          other.DescribedBy memory base earlier → other.Lacks memory header.width address)
    (described : table.DescribedBy memory base command)
    (matched : table.Matches memory header.width address symbol)
    : SymbolFor memory header base address (some symbol)

/-- The symbol of an address in the table that a command describes. -/
def Command.symbol? (memory : Memory) (width : Width) (base address : UInt64)
    (command : Command)
    : Option SymbolMatch :=
  (SymbolTable.read? memory base command).bind fun table =>
    (table.findSymbol? memory width address).value

/-- A command has no symbol when no table that it describes has one. -/
theorem Command.symbol?_eq_none_iff {width : Width} {command : Command}
    : command.symbol? memory width base address = none
      ↔ ∀ table : SymbolTable,
          table.DescribedBy memory base command → table.Lacks memory width address := by
  simp only [symbol?, Option.bind_eq_none_iff, SymbolTable.read?_eq_some_iff,
    SymbolTable.findSymbol?_value_eq_none_iff]

/-- A command has the symbol of the table that it describes. -/
theorem Command.symbol?_eq_some_iff {width : Width} {command : Command}
    {symbol : SymbolMatch}
    : command.symbol? memory width base address = some symbol
      ↔ ∃ table : SymbolTable,
          table.DescribedBy memory base command
          ∧ table.Matches memory width address symbol := by
  simp only [symbol?, Option.bind_eq_some_iff, SymbolTable.read?_eq_some_iff,
    SymbolTable.findSymbol?_value_eq_some_iff]

/-- The search through an image takes the first command that has a symbol. -/
theorem findSymbol?_value (memory : Memory) (header : Header) (base address : UInt64)
    : (findSymbol? memory header base address).value
      = (Commands.ofHeader memory header).list.findSome?
          (Command.symbol? memory header.width base address) := by
  rw [findSymbol?, Commands.findSome?_value]
  congr 1
  funext command
  rw [Command.symbol?]
  cases SymbolTable.read? memory base command <;> rfl

/-- The search comes to the symbol that the image has for the address, and to no other answer. -/
theorem symbolFor_iff {outcome : Option SymbolMatch}
    : SymbolFor memory header base address outcome
      ↔ (findSymbol? memory header base address).value = outcome := by
  rw [findSymbol?_value]
  constructor
  · intro symbol
    cases symbol with
    | absent lacking =>
        exact List.findSome?_eq_none_iff.mpr fun command member =>
          Command.symbol?_eq_none_iff.mpr (lacking command member)
    | found walk lacking described matched =>
        exact List.findSome?_eq_some_iff.mpr ⟨_, _, _, walk,
          Command.symbol?_eq_some_iff.mpr ⟨_, described, matched⟩,
          fun earlier member => Command.symbol?_eq_none_iff.mpr (lacking earlier member)⟩
  · intro ends
    cases outcome with
    | none =>
        exact .absent fun command member =>
          Command.symbol?_eq_none_iff.mp (List.findSome?_eq_none_iff.mp ends command member)
    | some symbol =>
        obtain ⟨before, command, after, walk, here, earlier⟩ :=
          List.findSome?_eq_some_iff.mp ends
        obtain ⟨table, described, matched⟩ := Command.symbol?_eq_some_iff.mp here
        exact .found walk
          (fun other member => Command.symbol?_eq_none_iff.mp (earlier other member))
          described matched

/-- Whatever the memory holds, the symbol of an address is the closest eligible entry among those
that are considered of the first table with such an entry; and of a table that can be read all
entries are considered, each of them once.
-/
theorem findSymbol?_closest (memory : Memory) (header : Header) (base address : UInt64)
    : (∀ outcome,
        SymbolFor memory header base address outcome
        ↔ (findSymbol? memory header base address).value = outcome)
      ∧ ∀ table : SymbolTable,
          table.Readable memory header.width
          → (table.considered memory header.width).map some
            = (List.range table.count).map (table.entry? memory header.width) :=
  ⟨fun _ => symbolFor_iff, fun _ => SymbolTable.considered_of_readable⟩

/-- A header and a command that describes a table of three symbols: two of one value, with an
underscore at the start of their names, and one for debuggers that is closer to some addresses.
-/
def namesakesImage : Memory :=
  .ofRegions [⟨0x8000,
    (([0xFEEDFACE, 7, 3, 2, 1, 24, 0] ++ [2, 24, 52, 3, 88, 10]
      ++ [1, 0x0F, 0x1010] ++ [4, 0x0F, 0x1010] ++ [1, 0x24, 0x1012]).flatMap Table.wordBytes
      ++ [0] ++ Text.bytes "_a" ++ [0] ++ Text.bytes "_main" ++ [0]).toArray⟩]

/-- Of the two symbols of one value the second one is found, without its underscore, and all
three have been considered.
-/
theorem findSymbol?_closest_of_namesakes
    : ∃ header table,
        (Header.read? namesakesImage ⟨0x8000⟩).value = some header
        ∧ SymbolFor namesakesImage header 0x8000 0x1014
            (some ⟨0x1010, some ⟨⟨0x805D⟩, 4⟩⟩)
        ∧ SymbolTable.DescribedBy namesakesImage 0x8000 ⟨2, ⟨0x801C⟩, 24⟩ table
        ∧ (table.considered namesakesImage .narrow).length = 3 := by
  let header : Header := ⟨⟨0x8000⟩, .narrow, 7, 3, 1, 24⟩
  let table : SymbolTable := ⟨⟨0x8034⟩, 3, ⟨0x8058⟩, 10⟩
  obtain ⟨choice, every⟩ := findSymbol?_closest namesakesImage header 0x8000 0x1014
  have readable : table.Readable namesakesImage .narrow := by
    unfold SymbolTable.Readable
    decide +kernel
  have described : table.DescribedBy namesakesImage 0x8000 ⟨2, ⟨0x801C⟩, 24⟩ :=
    SymbolTable.read?_eq_some_iff.mp (by decide +kernel)
  have count := congrArg List.length (every table readable)
  rw [List.length_map, List.length_map, List.length_range] at count
  exact ⟨header, table, by decide +kernel, (choice _).mpr (by decide +kernel), described, count⟩

end CrashCapture.Image
