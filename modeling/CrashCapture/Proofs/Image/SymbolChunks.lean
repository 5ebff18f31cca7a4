import CrashCapture.Image.Symbol
import Mathlib.Data.List.TakeWhile

/-! The entries of a symbol table that are considered. A table is read chunk by chunk, and
chunks do not divide its entries evenly; what is considered are the entries of all chunks in
front of the first one that cannot be read, so every entry once when there is none.
-/

namespace CrashCapture.Image

open Log (Noted)

/-- How many entries are read at once, unless a table has fewer left. -/
def chunkCapacity : Width → Nat
  | .narrow => 85
  | .wide => 64

theorem entriesPerChunk_eq (width : Width) : entriesPerChunk width = chunkCapacity width := by
  cases width <;> decide

/-- The entry at a place of a chunk that was read. -/
def SymbolEntry.inChunk (width : Width) (bytes : List UInt8) (place : Nat) : SymbolEntry :=
  ofRecord width ((bytes.drop (place * size width)).take (size width))

/-- A chunk is decoded entry by entry, by induction on their number. -/
theorem entriesOfChunk_eq (width : Width) (count : Nat) (bytes : List UInt8)
    : entriesOfChunk width count bytes
      = (List.range count).map (SymbolEntry.inChunk width bytes) := by
  induction count generalizing bytes with
  | zero => rfl
  | succ count ih =>
      have moved (place : Nat)
          : SymbolEntry.inChunk width (bytes.drop (SymbolEntry.size width)) place
            = SymbolEntry.inChunk width bytes (place + 1) := by
        rw [SymbolEntry.inChunk, SymbolEntry.inChunk, List.drop_drop, Nat.add_mul, Nat.one_mul,
          Nat.add_comm]
      rw [entriesOfChunk, ih, List.range_succ_eq_map, List.map_cons, List.map_map]
      congr 1
      · rw [SymbolEntry.inChunk, Nat.zero_mul, List.drop_zero]
      · exact List.map_congr_left fun place _ => moved place

namespace SymbolTable

variable {memory : Memory} {width : Width} {table : SymbolTable}

/-- How many chunks the entries of a table fill, the last one perhaps in part. -/
def chunkCount (width : Width) (table : SymbolTable) : Nat :=
  (table.count + chunkCapacity width - 1) / chunkCapacity width

/-- How many entries a chunk has. -/
def chunkLength (width : Width) (table : SymbolTable) (number : Nat) : Nat :=
  min (chunkCapacity width) (table.count - number * chunkCapacity width)

/-- The entries of the chunk with that number, when it can be read. -/
def chunk? (memory : Memory) (width : Width) (table : SymbolTable) (number : Nat)
    : Option (List SymbolEntry) :=
  let offset := number * chunkCapacity width * SymbolEntry.size width
  let count := table.chunkLength width number
  (memory.read? (table.entries.advance offset) (count * SymbolEntry.size width)).map
    fun bytes => (List.range count).map (SymbolEntry.inChunk width bytes)

/-- The entries in front of the first chunk that cannot be read. -/
def considered (memory : Memory) (width : Width) (table : SymbolTable) : List SymbolEntry :=
  (((List.range (table.chunkCount width)).map (table.chunk? memory width)).takeWhile
    Option.isSome).flatMap (·.getD [])

/-- A chunk is one of a table when it starts in front of the table's end. -/
theorem lt_chunkCount_iff {number : Nat}
    : number < table.chunkCount width ↔ number * chunkCapacity width < table.count := by
  rw [chunkCount]
  cases width <;> simp only [chunkCapacity] <;> omega

/-- Reading goes on behind a chunk that could be read. -/
theorem entriesFrom_chunk {number : Nat} (more : number * chunkCapacity width < table.count)
    : (entriesFrom memory width table.entries table.count
          (number * chunkCapacity width)).value
      = match table.chunk? memory width number with
        | none => []
        | some entries =>
          entries ++ (entriesFrom memory width table.entries table.count
            (min table.count ((number + 1) * chunkCapacity width))).value := by
  have next : number * chunkCapacity width + table.chunkLength width number
      = min table.count ((number + 1) * chunkCapacity width) := by
    rw [chunkLength, Nat.add_mul, Nat.one_mul]
    omega
  rw [entriesFrom, dif_pos more, entriesPerChunk_eq, ← chunkLength, chunk?]
  dsimp only
  cases memory.read?
      (table.entries.advance (number * chunkCapacity width * SymbolEntry.size width))
      (table.chunkLength width number * SymbolEntry.size width) with
  | none => rfl
  | some bytes =>
      simp only [Noted.value_bind, Noted.value_pure, Option.map_some, entriesOfChunk_eq, next]

/-- What is read from a chunk on are the chunks that are left up to the first one that cannot be
read. By induction on the chunks left; the last one ends with the table.
-/
theorem entriesFrom_value {number left : Nat}
    (all : number + left = table.chunkCount width)
    : (entriesFrom memory width table.entries table.count
          (min table.count (number * chunkCapacity width))).value
      = (((List.range' number left).map (table.chunk? memory width)).takeWhile
          Option.isSome).flatMap (·.getD []) := by
  induction left generalizing number with
  | zero =>
      have past : table.count ≤ number * chunkCapacity width :=
        Nat.le_of_not_lt fun more => by
          have within := lt_chunkCount_iff.mpr more
          omega
      rw [Nat.min_eq_left past, entriesFrom, dif_neg (Nat.lt_irrefl _)]
      rfl
  | succ left ih =>
      have more : number * chunkCapacity width < table.count :=
        lt_chunkCount_iff.mp (by omega)
      rw [Nat.min_eq_right (Nat.le_of_lt more), entriesFrom_chunk more, List.range'_succ,
        List.map_cons, List.takeWhile_cons]
      cases table.chunk? memory width number with
      | none => rfl
      | some entries =>
          dsimp only
          rw [ih (by omega)]
          rfl

/-- The scan of a table visits the considered entries in their order. -/
theorem entriesFrom_zero_value (memory : Memory) (width : Width) (table : SymbolTable)
    : (entriesFrom memory width table.entries table.count 0).value
      = table.considered memory width := by
  have scan := @entriesFrom_value memory width table 0 _ (Nat.zero_add _)
  rwa [Nat.zero_mul, Nat.min_zero, ← List.range_eq_range'] at scan

-----------------------------------------------------------------------------------------
-- A table that can be read
-----------------------------------------------------------------------------------------

/-- The entry at a place of a table, when its chunk can be read. -/
def entry? (memory : Memory) (width : Width) (table : SymbolTable) (place : Nat)
    : Option SymbolEntry :=
  (table.chunk? memory width (place / chunkCapacity width)).bind
    (·[place % chunkCapacity width]?)

/-- Every chunk of the table can be read. -/
def Readable (memory : Memory) (width : Width) (table : SymbolTable) : Prop :=
  ∀ number < table.chunkCount width, (table.chunk? memory width number).isSome = true

/-- A chunk that can be read consists of the entries at its places. -/
theorem entry?_of_chunk? {number : Nat} {entries : List SymbolEntry}
    (read : table.chunk? memory width number = some entries)
    : entries.map some
      = (List.range' (number * chunkCapacity width) (table.chunkLength width number)).map
          (table.entry? memory width) := by
  have length : entries.length = table.chunkLength width number := by
    obtain ⟨bytes, _, rfl⟩ := Option.map_eq_some_iff.mp read
    rw [List.length_map, List.length_range]
  have capacity : 0 < chunkCapacity width := by cases width <;> decide
  refine List.ext_getElem (by simp [length]) fun place inside _ => ?_
  rw [List.length_map] at inside
  have below : place < chunkCapacity width := by
    rw [length, chunkLength] at inside
    omega
  have quotient : (number * chunkCapacity width + place) / chunkCapacity width = number := by
    rw [Nat.add_comm, Nat.add_mul_div_right _ _ capacity, Nat.div_eq_of_lt below, Nat.zero_add]
  have remainder : (number * chunkCapacity width + place) % chunkCapacity width = place := by
    rw [Nat.add_comm, Nat.add_mul_mod_self_right, Nat.mod_eq_of_lt below]
  simp only [List.getElem_map, List.getElem_range', Nat.one_mul, entry?, quotient, remainder,
    read, Option.bind_some, List.getElem?_eq_getElem inside]

/-- The chunks from one on hold the entries from its first one on, by induction on them. -/
theorem map_some_flatMap_chunk? (readable : table.Readable memory width) {number left : Nat}
    (all : number + left = table.chunkCount width)
    : (((List.range' number left).map (table.chunk? memory width)).flatMap
        (·.getD [])).map some
      = (List.range' (min table.count (number * chunkCapacity width))
          (table.count - number * chunkCapacity width)).map (table.entry? memory width) := by
  induction left generalizing number with
  | zero =>
      have past : table.count ≤ number * chunkCapacity width :=
        Nat.le_of_not_lt fun more => by
          have within := lt_chunkCount_iff.mpr more
          omega
      rw [Nat.sub_eq_zero_of_le past]
      rfl
  | succ left ih =>
      have here : number < table.chunkCount width := by omega
      have more := lt_chunkCount_iff.mp here
      obtain ⟨entries, read⟩ := Option.isSome_iff_exists.mp (readable number here)
      have next : min table.count ((number + 1) * chunkCapacity width)
          = number * chunkCapacity width + table.chunkLength width number := by
        rw [chunkLength, Nat.add_mul, Nat.one_mul]
        omega
      have rest : table.count - number * chunkCapacity width
          = table.chunkLength width number
            + (table.count - (number + 1) * chunkCapacity width) := by
        rw [chunkLength, Nat.add_mul, Nat.one_mul]
        omega
      rw [List.range'_succ, List.map_cons, List.flatMap_cons, read, Option.getD_some,
        List.map_append, ih (by omega), entry?_of_chunk? read, next,
        Nat.min_eq_right (Nat.le_of_lt more), rest, ← List.range'_append_1, List.map_append]

/-- Of a table that can be read every entry is considered once, in the order of the table. -/
theorem considered_of_readable (readable : table.Readable memory width)
    : (table.considered memory width).map some
      = (List.range table.count).map (table.entry? memory width) := by
  have whole := map_some_flatMap_chunk? readable (Nat.zero_add (table.chunkCount width))
  have every : ∀ chunk ∈ (List.range (table.chunkCount width)).map (table.chunk? memory width),
      chunk.isSome = true := by
    intro chunk member
    obtain ⟨number, below, rfl⟩ := List.mem_map.mp member
    exact readable number (List.mem_range.mp below)
  rw [Nat.zero_mul, Nat.min_zero, Nat.sub_zero, ← List.range_eq_range',
    ← List.range_eq_range'] at whole
  rw [considered, List.takeWhile_eq_self_iff.mpr every, whole]

end SymbolTable

end CrashCapture.Image
