import CrashCapture.Image.Table
import CrashCapture.Memory.Regions
import CrashCapture.Proofs.Image.Segments
import CrashCapture.Proofs.Image.SymbolSearch

/-! What an address resolves to. The first image with a segment over the address owns it, and
the answer is a matter of that image alone.
-/

namespace CrashCapture

/-- An address that does not lie above another one has a distance from it. -/
theorem Address.offsetFrom?_of_le {a base : Address} (ordered : base.value ≤ a.value)
    : a.offsetFrom? base = some (a.value - base.value) :=
  if_pos (UInt64.le_iff_toNat_le.mp ordered)

end CrashCapture

namespace CrashCapture.Image.Table

open Log (Noted)

variable {table : Table} {address : Address}

-----------------------------------------------------------------------------------------
-- The image that owns an address
-----------------------------------------------------------------------------------------

/-- The linked address that an address has in an image. It wraps where the image's slide
lies above the address.
-/
def unslid (table : Table) (index : Nat) (address : Address) : UInt64 :=
  address.value - (table.source.image index).slide

/-- An image that is still there has a header with one of the two magic numbers, and one of
its segments lies over the address.
-/
structure Holds (table : Table) (address : Address) (index : Nat) (start : Address)
    (header : Header) : Prop where
  present : (table.source.image index).header = some start
  magic : table.memory.number? start 4 = some header.width.magic
  read : Header.readAs? table.memory start header.width = some header
  covered : ∃ segment ∈ header.segments table.memory,
    segment.Covers (table.unslid index address)

/-- The image is the first of the list that holds the address. -/
structure Owns (table : Table) (address : Address) (index : Nat) (start : Address)
    (header : Header) : Prop where
  listed : index < table.source.count
  holds : table.Holds address index start header
  first : ∀ earlier < index, ∀ start header, ¬ table.Holds address earlier start header

/-- The search for an image asks of each image whether it holds the address. -/
theorem covers_value_iff {index : Nat}
    : (table.covers address index).value = true
      ↔ ∃ start header, table.Holds address index start header := by
  rw [covers]
  constructor
  · intro covered
    cases present : (table.source.image index).header with
    | none => simp [present] at covered
    | some start =>
        cases read : (Header.read? table.memory start).value with
        | none => simp [present, read] at covered
        | some header =>
            simp only [present, Noted.value_bind, read] at covered
            obtain ⟨magic, fields⟩ := Header.read?_value_eq_some_iff.mp read
            exact ⟨start, header, present, magic, fields, segmentContains_value.mp covered⟩
  · rintro ⟨start, header, holds⟩
    have read := Header.read?_value_eq_some_iff.mpr ⟨holds.magic, holds.read⟩
    simp only [holds.present, Noted.value_bind, read]
    exact segmentContains_value.mpr holds.covered

/-- A search for the first place is one in the list of places. -/
theorem findIndex?_value (test : Nat → Noted Bool) (index left : Nat)
    : (findIndex? test index left).value
      = (List.range' index left).find? fun place => (test place).value := by
  induction left generalizing index with
  | zero => rfl
  | succ left ih =>
      rw [findIndex?, Noted.value_bind, List.range'_succ, List.find?_cons]
      cases (test index).value with
      | true => rfl
      | false => exact ih (index + 1)

/-- No image is found exactly when none holds the address. -/
theorem indexContaining?_value_eq_none_iff
    : (table.indexContaining? address).value = none
      ↔ ∀ index < table.source.count, ∀ start header,
          ¬ table.Holds address index start header := by
  simp only [indexContaining?, findIndex?_value, List.find?_range'_eq_none, Nat.zero_le,
    Nat.zero_add, true_imp_iff, Bool.not_eq_true', ← Bool.not_eq_true, covers_value_iff,
    not_exists]

/-- The image found is the one that owns the address. -/
theorem indexContaining?_value_eq_some_iff {index : Nat}
    : (table.indexContaining? address).value = some index
      ↔ ∃ start header, table.Owns address index start header := by
  simp only [indexContaining?, findIndex?_value, List.find?_range'_eq_some, Nat.zero_le,
    Nat.zero_add, true_imp_iff, Bool.not_eq_true', ← Bool.not_eq_true, covers_value_iff,
    not_exists, List.mem_range'_1, true_and]
  constructor
  · rintro ⟨⟨start, header, holds⟩, listed, first⟩
    exact ⟨start, header, listed, holds, first⟩
  · rintro ⟨start, header, owner⟩
    exact ⟨⟨start, header, owner.holds⟩, owner.listed, owner.first⟩

/-- An address without an owner resolves to nothing. -/
theorem resolve?_value_of_unowned
    (unowned : ∀ index < table.source.count, ∀ start header,
      ¬ table.Holds address index start header)
    : (table.resolve? address).value = none := by
  have absent := indexContaining?_value_eq_none_iff.mpr unowned
  simp only [resolve?, Noted.value_bind, absent, Noted.value_pure]

/-- An address is resolved in its owner, and in no image after it. -/
theorem Owns.resolve?_value {index : Nat} {start : Address} {header : Header}
    (owner : table.Owns address index start header)
    : (table.resolve? address).value = (table.resolveIn? index start header address).value := by
  have found := indexContaining?_value_eq_some_iff.mpr ⟨start, header, owner⟩
  have read := Header.read?_value_eq_some_iff.mpr ⟨owner.holds.magic, owner.holds.read⟩
  simp only [resolve?, Noted.value_bind, found, owner.holds.present, read]

-----------------------------------------------------------------------------------------
-- What the owner makes of an address
-----------------------------------------------------------------------------------------

/-- Where the file of an image starts in memory, by the segment that holds its tables. -/
def fileStart (table : Table) (index : Nat) (linkEdit : Segment) : UInt64 :=
  linkEdit.vmAddress - linkEdit.fileOffset + (table.source.image index).slide

/-- The symbol of an address in an image, with the image's tables counted from `base`. -/
def symbolIn? (table : Table) (index : Nat) (header : Header) (base : UInt64)
    (address : Address)
    : Option SymbolMatch :=
  (findSymbol? table.memory header base (table.unslid index address)).value

/-- The answer for an address with an owner: the image's place, name and header, and what was
found of a symbol, moved to where the image is loaded.
-/
def resolution (table : Table) (index : Nat) (start : Address) (symbol : Option SymbolMatch)
    : Resolution where
  imageIndex := index
  imageName := (table.source.image index).name
  imageAddress := start
  symbolAddress := symbol.map fun found => ⟨found.value + (table.source.image index).slide⟩
  symbolName := symbol.bind (·.name)

/-- How an address is resolved. An owner that does not say where its tables are, or that has
its file at zero, ends the search without an answer.
-/
inductive ResolvesTo (table : Table) (address : Address) : Option Resolution → Prop where
  | unowned
    (absent : ∀ index < table.source.count, ∀ start header,
      ¬ table.Holds address index start header)
    : ResolvesTo table address none
  | withoutTables {index start header} (owner : table.Owns address index start header)
    (absent : header.linkEdit? table.memory = none)
    : ResolvesTo table address none
  | atZero {index start header linkEdit} (owner : table.Owns address index start header)
    (segment : header.linkEdit? table.memory = some linkEdit)
    (zero : table.fileStart index linkEdit = 0)
    : ResolvesTo table address none
  | resolved {index start header linkEdit} (owner : table.Owns address index start header)
    (segment : header.linkEdit? table.memory = some linkEdit)
    (nonzero : table.fileStart index linkEdit ≠ 0)
    : ResolvesTo table address
        (some (table.resolution index start
          (table.symbolIn? index header (table.fileStart index linkEdit) address)))

theorem resolveIn?_value_of_linkEdit?_none {index : Nat} {start : Address} {header : Header}
    (absent : header.linkEdit? table.memory = none)
    : (table.resolveIn? index start header address).value = none := by
  simp only [resolveIn?, Noted.value_bind, fileBase?_value, absent, Option.map_none,
    Noted.value_pure]

theorem resolveIn?_value_of_linkEdit? {index : Nat} {start : Address} {header : Header}
    {linkEdit : Segment}
    (segment : header.linkEdit? table.memory = some linkEdit)
    : (table.resolveIn? index start header address).value
      = if table.fileStart index linkEdit = 0 then none
        else some (table.resolution index start
          (table.symbolIn? index header (table.fileStart index linkEdit) address)) := by
  simp only [resolveIn?, Noted.value_bind, fileBase?_value, segment, Option.map_some]
  by_cases zero : table.fileStart index linkEdit = 0
  · rw [if_pos zero]
    simp only [fileStart] at zero
    rw [if_pos zero, Noted.value_pure]
  · rw [if_neg zero]
    simp only [fileStart] at zero
    rw [if_neg zero]
    rfl

/-- The search for an answer follows the rules, and there is no other way to follow them. -/
theorem resolvesTo_iff {outcome : Option Resolution}
    : table.ResolvesTo address outcome ↔ (table.resolve? address).value = outcome := by
  constructor
  · intro resolves
    cases resolves with
    | unowned absent => exact resolve?_value_of_unowned absent
    | withoutTables owner absent =>
        rw [owner.resolve?_value, resolveIn?_value_of_linkEdit?_none absent]
    | atZero owner segment zero =>
        rw [owner.resolve?_value, resolveIn?_value_of_linkEdit? segment, if_pos zero]
    | resolved owner segment nonzero =>
        rw [owner.resolve?_value, resolveIn?_value_of_linkEdit? segment, if_neg nonzero]
  · rintro rfl
    cases found : (table.indexContaining? address).value with
    | none =>
        have absent := indexContaining?_value_eq_none_iff.mp found
        rw [resolve?_value_of_unowned absent]
        exact .unowned absent
    | some index =>
        obtain ⟨start, header, owner⟩ := indexContaining?_value_eq_some_iff.mp found
        rw [owner.resolve?_value]
        cases segment : header.linkEdit? table.memory with
        | none =>
            rw [resolveIn?_value_of_linkEdit?_none segment]
            exact .withoutTables owner segment
        | some linkEdit =>
            rw [resolveIn?_value_of_linkEdit? segment]
            split
            case isTrue zero => exact .atZero owner segment zero
            case isFalse nonzero => exact .resolved owner segment nonzero

-----------------------------------------------------------------------------------------
-- The distance from the symbol
-----------------------------------------------------------------------------------------

/-- With the slide below the address, neither the address nor its symbol wraps, and their
distance is the same before and after the image was moved.
-/
theorem resolution_offset? {index : Nat} {start : Address} {found : SymbolMatch}
    (slid : (table.source.image index).slide ≤ address.value)
    (below : found.value ≤ table.unslid index address)
    : (table.resolution index start (some found)).offset? address
      = some (table.unslid index address - found.value) := by
  have unslid_eq := UInt64.toNat_sub_of_le _ _ slid
  have below := UInt64.le_iff_toNat_le.mp below
  have bound := address.value.toNat_lt
  have slid := UInt64.le_iff_toNat_le.mp slid
  rw [unslid, unslid_eq] at below
  -- What was found stays below the address when it is moved up by the slide.
  have moved : (found.value + (table.source.image index).slide).toNat
      = found.value.toNat + (table.source.image index).slide.toNat := by
    rw [UInt64.toNat_add]
    exact Nat.mod_eq_of_lt (by omega)
  have ordered : found.value + (table.source.image index).slide ≤ address.value := by
    rw [UInt64.le_iff_toNat_le, moved]
    omega
  have distance : address.value - (found.value + (table.source.image index).slide)
      = address.value - (table.source.image index).slide - found.value := by
    grind
  rw [Resolution.offset?, resolution, Option.map_some, Option.bind_some,
    Address.offsetFrom?_of_le ordered, distance, unslid]

/-- Whatever the images and the memory hold, an address is resolved by the rules; and where a
symbol is found and the slide is not above the address, the symbol lies as far below the
address as its linked value lies below the linked address.
-/
theorem resolve?_follows_rules (table : Table) (address : Address)
    : (∀ outcome, table.ResolvesTo address outcome
        ↔ (table.resolve? address).value = outcome)
      ∧ ∀ index start header linkEdit found, table.Owns address index start header
        → header.linkEdit? table.memory = some linkEdit
        → table.fileStart index linkEdit ≠ 0
        → table.symbolIn? index header (table.fileStart index linkEdit) address = some found
        → (table.source.image index).slide ≤ address.value
        → found.value ≤ table.unslid index address
          ∧ ∃ resolution, (table.resolve? address).value = some resolution
              ∧ resolution.offset? address
                = some (table.unslid index address - found.value) := by
  refine ⟨fun outcome => resolvesTo_iff, ?_⟩
  intro index start header linkEdit found owner segment nonzero matched slid
  have below : found.value ≤ table.unslid index address := findSymbol?_value_le matched
  have resolves := resolvesTo_iff.mp (.resolved owner segment nonzero)
  rw [matched] at resolves
  exact ⟨below, _, resolves, resolution_offset? slid below⟩

-----------------------------------------------------------------------------------------
-- An image that is listed twice
-----------------------------------------------------------------------------------------

/-- A word as an image stores it. -/
def wordBytes (word : Nat) : List UInt8 :=
  [.ofNat word, .ofNat (word / 0x100), .ofNat (word / 0x10000), .ofNat (word / 0x1000000)]

/-- A header, a segment that holds the tables of its image, a command that describes a symbol
table, and the one symbol of that table.
-/
def smallImage : List UInt8 :=
  ([0xFEEDFACE, 7, 3, 2, 2, 80, 0]
    ++ [1, 56, 0x494C5F5F, 0x44454B4E, 0x5449, 0, 0x1000, 0x1000, 0, 0, 0, 0, 0, 0]
    ++ [2, 24, 108, 1, 0, 0]
    ++ [0, 0x0F, 0x1010]).flatMap wordBytes

/-- An image that is gone, and one that is listed twice. -/
def doubled : Table where
  source := .ofList [{}, { header := some ⟨0x8000⟩, slide := 0x7000 },
    { header := some ⟨0x8000⟩, slide := 0x7000 }]
  memory := .ofRegions [⟨0x8000, smallImage.toArray⟩]

/-- An address in the image that is listed twice resolves in the first of the two, four bytes
above the symbol.
-/
theorem resolve?_follows_rules_of_doubled_image
    : doubled.ResolvesTo ⟨0x8014⟩ (some (doubled.resolution 1 ⟨0x8000⟩ (some ⟨0x1010, none⟩)))
      ∧ ∃ resolution, (doubled.resolve? ⟨0x8014⟩).value = some resolution
          ∧ resolution.offset? ⟨0x8014⟩ = some 4 := by
  let header : Header := ⟨⟨0x8000⟩, .narrow, 7, 3, 2, 80⟩
  let linkEdit : Segment := {
    name := Text.bytes "__LINKEDIT" ++ List.replicate 6 0
    vmAddress := 0x1000
    vmSize := 0x1000
    fileOffset := 0
    width := .narrow
    sectionCount := 0
    sections := ⟨0x8054⟩
  }
  have owner : doubled.Owns ⟨0x8014⟩ 1 ⟨0x8000⟩ header := {
    listed := by decide
    holds := {
      present := rfl
      magic := by decide +kernel
      read := by decide +kernel
      covered := segmentContains_value.mp (by decide +kernel)
    }
    first := by
      intro earlier below start header holds
      obtain rfl : earlier = 0 := by omega
      cases holds.present
  }
  have rules := resolve?_follows_rules doubled ⟨0x8014⟩
  obtain ⟨_, resolved⟩ := rules.2 1 ⟨0x8000⟩ header linkEdit ⟨0x1010, none⟩ owner
    (by decide +kernel) (by decide +kernel) (by decide +kernel) (by decide)
  exact ⟨(rules.1 _).mpr (by decide +kernel), resolved⟩

end CrashCapture.Image.Table
