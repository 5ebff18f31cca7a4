import CrashCapture.Proofs.Image.SymbolSearch
import CrashCapture.Proofs.Image.CheckedCommands
import CrashCapture.Proofs.Image.CheckedTexts

/-! The search for the symbol of an address with all checks made. A table of symbols is read a
chunk at a time into a buffer of fixed size, as far as it can be read, and none of its entries is
looked at twice.
-/

namespace CrashCapture.Image

open Checked (Safe)
open Log (Noted)

-----------------------------------------------------------------------------------------
-- The entries of a chunk
-----------------------------------------------------------------------------------------

def SymbolEntry.ofRecordChecked (width : Width) (record : List UInt8)
    : Checked SymbolEntry := do
  return {
    nameOffset := ← Checked.field record 0 4
    kind := .ofNat (← Checked.field record 4 1)
    description := ← Checked.field record 6 2
    value := .ofNat (← Checked.field record 8 width.word) }

def entriesOfChunkChecked (width : Width) : (count : Nat) → List UInt8
    → Checked (List SymbolEntry)
  | 0, _ => return []
  | count + 1, bytes => do
    let record ← Checked.slice bytes 0 (SymbolEntry.size width)
    let entry ← SymbolEntry.ofRecordChecked width record
    let rest ← entriesOfChunkChecked width count (bytes.drop (SymbolEntry.size width))
    return entry :: rest

/-- The fields of an entry are inside of its record. -/
theorem SymbolEntry.ofRecordChecked_eq {width : Width} {record : List UInt8}
    (full : record.length = size width)
    : ofRecordChecked width record = pure (ofRecord width record) := by
  have room : 8 + width.word ≤ record.length := by
    rw [full]
    cases width <;> decide
  rw [ofRecordChecked]
  simp (disch := omega) only [Checked.field_eq, Checked.pure_bind]
  rfl

/-- A chunk has as many entries as it was read for. -/
theorem entriesOfChunkChecked_eq {width : Width} {count : Nat} {bytes : List UInt8}
    (full : bytes.length = count * SymbolEntry.size width)
    : entriesOfChunkChecked width count bytes = pure (entriesOfChunk width count bytes) := by
  induction count generalizing bytes with
  | zero => rfl
  | succ count ih =>
      rw [Nat.add_mul, Nat.one_mul] at full
      have inside : 0 + SymbolEntry.size width ≤ bytes.length := by omega
      have record : (bytes.take (SymbolEntry.size width)).length = SymbolEntry.size width := by
        rw [List.length_take]
        omega
      have rest : (bytes.drop (SymbolEntry.size width)).length
          = count * SymbolEntry.size width := by
        rw [List.length_drop]
        omega
      rw [entriesOfChunkChecked, Checked.slice_eq inside, Checked.pure_bind, List.drop_zero,
        SymbolEntry.ofRecordChecked_eq record, Checked.pure_bind, ih rest, Checked.pure_bind,
        entriesOfChunk]

/-- A chunk is cut into as many entries as it was read for. -/
theorem length_entriesOfChunk (width : Width) (count : Nat) (bytes : List UInt8)
    : (entriesOfChunk width count bytes).length = count := by
  induction count generalizing bytes with
  | zero => rfl
  | succ count ih => rw [entriesOfChunk, List.length_cons, ih]

-----------------------------------------------------------------------------------------
-- The entries of a table
-----------------------------------------------------------------------------------------

variable {σ : Type}

def scanFromChecked (memory : Memory) (width : Width) (table : Address) (total : Nat)
    (visit : σ → SymbolEntry → Checked σ)
    : (rounds index : Nat) → σ → Checked σ
  | 0, _, _ => Checked.stop .endless
  | rounds + 1, index, state =>
    if index < total then do
      let inChunk ← Checked.quotient tableChunk (SymbolEntry.size width)
      let left ← Checked.sub total index
      let count := min inChunk left
      let bytes ← Checked.mul count (SymbolEntry.size width)
      let offset ← Checked.mul index (SymbolEntry.size width)
      match ← Checked.read memory (table.advance offset) bytes tableChunk with
      | none => return state
      | some chunk =>
        let entries ← entriesOfChunkChecked width count chunk
        scanFromChecked memory width table total visit rounds (← Checked.add index count)
          (← entries.foldlM visit state)
    else return state

/-- Every round visits one entry at least, so the count is enough for the rounds. -/
def scanChecked (memory : Memory) (width : Width) (table : Address) (total : Nat)
    (visit : σ → SymbolEntry → Checked σ) (state : σ)
    : Checked σ :=
  scanFromChecked memory width table total visit (total + 1) 0 state

/-- As much of a table is looked at as there are entries left of its count. -/
theorem length_entriesFrom_le (memory : Memory) (width : Width) (table : Address)
    (total index : Nat)
    : (entriesFrom memory width table total index).value.length ≤ total - index := by
  fun_induction entriesFrom with
  | case1 index more count unread => exact Nat.zero_le _
  | case2 index more count chunk read ih =>
      have within : count ≤ total - index := Nat.min_le_right _ _
      rw [Noted.value_bind, Noted.value_pure, List.length_append, length_entriesOfChunk]
      omega
  | case3 index done => exact Nat.zero_le _

/-- A scan from an entry on visits the entries behind it that can be read, each of them once,
by induction on the rounds left.
-/
theorem scanFromChecked_safe {memory : Memory} {width : Width} {table : Address}
    {total rounds index : Nat} {visit : σ → SymbolEntry → Checked σ}
    {step : σ → SymbolEntry → σ} (few : total < UInt32.size)
    (visits : ∀ state entry, visit state entry = pure (step state entry))
    (enough : total - index < rounds) (state : σ)
    : (scanFromChecked memory width table total visit rounds index state).Safe
        ((entriesFrom memory width table total index).value.foldl step state) := by
  induction rounds generalizing index state with
  | zero => omega
  | succ rounds ih =>
      rw [scanFromChecked, entriesFrom]
      split
      case isTrue more =>
        have divisor : SymbolEntry.size width ≠ 0 := by cases width <;> decide
        have small : SymbolEntry.size width ≤ 16 := by cases width <;> decide
        have positive : 0 < tableChunk / SymbolEntry.size width := by cases width <;> decide
        simp only [Checked.quotient_eq divisor, Checked.sub_eq (Nat.le_of_lt more),
          Checked.pure_bind, entriesPerChunk]
        generalize sized : min (tableChunk / SymbolEntry.size width) (total - index) = count
        -- The buffer has room for a chunk, whatever the table says of its own size.
        have capacity : count * SymbolEntry.size width ≤ tableChunk := by
          have inChunk : count ≤ tableChunk / SymbolEntry.size width :=
            sized ▸ Nat.min_le_left _ _
          exact Nat.le_trans (Nat.mul_le_mul_right _ inChunk) (Nat.div_mul_le_self _ _)
        have bytes : count * SymbolEntry.size width < UInt64.size :=
          Nat.lt_of_le_of_lt capacity (by decide)
        have offset : index * SymbolEntry.size width < UInt64.size := by
          have product := Nat.mul_le_mul (Nat.le_of_lt (Nat.lt_trans more few)) small
          exact Nat.lt_of_le_of_lt product (by decide)
        rw [Checked.mul_eq bytes, Checked.pure_bind, Checked.mul_eq offset, Checked.pure_bind]
        refine .read_bind capacity ?_
        cases read : memory.read? (table.advance (index * SymbolEntry.size width))
            (count * SymbolEntry.size width) with
        | none => exact .pure
        | some chunk =>
            have next : index + count < UInt64.size := by
              have size : UInt32.size < UInt64.size := by decide
              omega
            simp only [entriesOfChunkChecked_eq (memory.length_read _ _ _ read),
              Checked.pure_bind, Checked.add_eq next, Checked.foldlM_eq visits,
              Noted.value_bind, Noted.value_pure, List.foldl_append]
            exact ih (by omega) _
      case isFalse => exact .pure

/-- A scan of a table visits its entries up to the first chunk that cannot be read. -/
theorem scanChecked_safe {memory : Memory} {width : Width} {table : Address} {total : Nat}
    {visit : σ → SymbolEntry → Checked σ} {step : σ → SymbolEntry → σ}
    (few : total < UInt32.size)
    (visits : ∀ state entry, visit state entry = pure (step state entry)) (state : σ)
    : (scanChecked memory width table total visit state).Safe
        ((entriesFrom memory width table total 0).value.foldl step state) :=
  scanFromChecked_safe few visits (Nat.lt_succ_self total) state

-----------------------------------------------------------------------------------------
-- The closest entry
-----------------------------------------------------------------------------------------

/-- The closest entry so far and how far below the address it is; at first there is none, and
every distance counts as closer.
-/
structure Nearest where
  entry : Option SymbolEntry := none
  distance : UInt64 := .ofNat (UInt64.size - 1)

namespace Nearest

def addChecked (address : UInt64) (nearest : Nearest) (entry : SymbolEntry)
    : Checked Nearest :=
  if entry.isCandidate address then do
    let distance ← Checked.distance address entry.value
    if distance ≤ nearest.distance then return { entry := some entry, distance := distance }
    else return nearest
  else return nearest

def add (address : UInt64) (nearest : Nearest) (entry : SymbolEntry) : Nearest :=
  if entry.isCandidate address then
    if address - entry.value ≤ nearest.distance then
      { entry := some entry, distance := address - entry.value }
    else nearest
  else nearest

/-- The distance that is kept beside an entry. -/
def ofEntry (address : UInt64) : Option SymbolEntry → Nearest
  | none => {}
  | some entry => { entry := some entry, distance := address - entry.value }

/-- A candidate is not above the address, so that its distance does not fall below zero. -/
theorem addChecked_eq (address : UInt64) (nearest : Nearest) (entry : SymbolEntry)
    : addChecked address nearest entry = pure (add address nearest entry) := by
  unfold addChecked add
  split
  case isTrue candidate =>
    rw [Checked.distance_eq (SymbolEntry.value_le_of_isCandidate candidate),
      Checked.pure_bind]
    split <;> rfl
  case isFalse => rfl

/-- The distance beside the closest entry is the entry's own, in every step. -/
theorem add_ofEntry (address : UInt64) (best : Option SymbolEntry) (entry : SymbolEntry)
    : add address (ofEntry address best) entry = ofEntry address (closer address best entry) := by
  unfold add closer
  split
  case isTrue =>
    cases best with
    | none =>
        have most : address - entry.value ≤ UInt64.ofNat (UInt64.size - 1) := by
          rw [UInt64.le_iff_toNat_le]
          exact Nat.le_of_lt_succ (address - entry.value).toNat_lt
        exact if_pos most
    | some found =>
        by_cases nearer : address - entry.value ≤ address - found.value
        · simp only [nearer, if_true, ofEntry]
        · simp only [nearer, if_false, ofEntry]
  case isFalse => rfl

end Nearest

-----------------------------------------------------------------------------------------
-- The tables of an image
-----------------------------------------------------------------------------------------

namespace SymbolTable

variable {memory : Memory}

def readChecked (memory : Memory) (base : UInt64) (command : Command)
    : Checked (Option SymbolTable) :=
  if command.kind ≠ Command.symbolTable then return none
  else
    command.recordChecked memory 24 fun record => do
      return {
        entries := ⟨base + .ofNat (← Checked.field record 8 4)⟩
        count := ← Checked.field record 12 4
        texts := ⟨base + .ofNat (← Checked.field record 16 4)⟩
        textBytes := ← Checked.field record 20 4 }

def nameOfChecked (memory : Memory) (table : SymbolTable) (entry : SymbolEntry)
    : Checked (Option StoredText) :=
  if entry.description = strippedDescription || table.textBytes ≤ entry.nameOffset then
    return none
  else do
    let limit ← Checked.sub table.textBytes entry.nameOffset
    match ← StoredText.findChecked memory (table.texts.advance entry.nameOffset) limit with
    | none => return none
    | some text => return some (← text.withoutUnderscoreChecked memory)

def findSymbolChecked (memory : Memory) (width : Width) (table : SymbolTable)
    (address : UInt64)
    : Checked (Option SymbolMatch) := do
  let nearest ← scanChecked memory width table.entries table.count
    (Nearest.addChecked address) {}
  match nearest.entry with
  | none => return none
  | some entry =>
    return some { value := entry.value, name := ← table.nameOfChecked memory entry }

/-- The table of symbols is read safely from its command. -/
theorem readChecked_safe (memory : Memory) (base : UInt64) (command : Command)
    : (readChecked memory base command).Safe (read? memory base command) := by
  unfold readChecked read?
  split
  · exact .pure
  · refine Command.recordChecked_safe fun record full => ?_
    simp (disch := omega) only [Checked.field_eq, Checked.pure_bind]

/-- The sizes of a table have 32 bits. -/
theorem small_of_read? {base : UInt64} {command : Command} {table : SymbolTable}
    (found : read? memory base command = some table)
    : table.count < UInt32.size ∧ table.textBytes < UInt32.size := by
  unfold read? at found
  split at found
  · cases found
  · obtain ⟨record, _, rfl⟩ := Option.map_eq_some_iff.mp found
    exact ⟨Memory.field_lt record 12 4, Memory.field_lt record 20 4⟩

/-- A name is found safely in the texts, whose size fits into 32 bits. -/
theorem nameOfChecked_safe {table : SymbolTable} (small : table.textBytes < UInt32.size)
    (entry : SymbolEntry)
    : (table.nameOfChecked memory entry).Safe (table.nameOf? memory entry) := by
  unfold nameOfChecked nameOf?
  split
  case isTrue => exact .pure
  case isFalse named =>
    simp only [Bool.or_eq_true, decide_eq_true_eq, not_or, Nat.not_le] at named
    have size : UInt32.size < UInt64.size := by decide
    have limit : table.textBytes - entry.nameOffset < UInt64.size := by omega
    rw [Checked.sub_eq (Nat.le_of_lt named.2), Checked.pure_bind]
    refine (StoredText.findChecked_gives memory _ limit).safe.bind ?_
    cases StoredText.find? memory (table.texts.advance entry.nameOffset)
        (table.textBytes - entry.nameOffset) with
    | none => exact .pure
    | some text => exact (text.withoutUnderscoreChecked_safe memory).bind .pure

/-- The search through one table is safe when its numbers fit into 32 bits. -/
theorem findSymbolChecked_safe {width : Width} {table : SymbolTable}
    (count : table.count < UInt32.size) (texts : table.textBytes < UInt32.size)
    (address : UInt64)
    : (table.findSymbolChecked memory width address).Safe
        (table.findSymbol? memory width address).value := by
  have scan : (scanChecked memory width table.entries table.count
        (Nearest.addChecked address) {}).Safe
      ((entriesFrom memory width table.entries table.count 0).value.foldl
        (Nearest.add address) (.ofEntry address none)) :=
    scanChecked_safe count (Nearest.addChecked_eq address) _
  rw [List.foldl_hom (Nearest.ofEntry address) (Nearest.add_ofEntry address)] at scan
  simp only [findSymbol?, Noted.value_bind, Noted.value_pure]
  refine scan.bind ?_
  cases (entriesFrom memory width table.entries table.count 0).value.foldl (closer address)
      none with
  | none => exact .pure
  | some entry => exact (nameOfChecked_safe texts entry).bind .pure

end SymbolTable

def findSymbolChecked (memory : Memory) (header : Header) (base address : UInt64)
    : Checked (Option SymbolMatch) :=
  header.findCommandChecked memory fun command => do
    match ← SymbolTable.readChecked memory base command with
    | none => return none
    | some table => table.findSymbolChecked memory header.width address

/-- The search through the tables of an image is safe. -/
theorem findSymbolChecked_safe (memory : Memory) (header : Header) (base address : UInt64)
    : (findSymbolChecked memory header base address).Safe
        (findSymbol? memory header base address).value := by
  refine Header.findCommandChecked_safe fun command => ?_
  refine (SymbolTable.readChecked_safe memory base command).bind ?_
  cases found : SymbolTable.read? memory base command with
  | none => exact .pure
  | some table =>
      obtain ⟨count, texts⟩ := SymbolTable.small_of_read? found
      exact SymbolTable.findSymbolChecked_safe count texts address

end CrashCapture.Image
