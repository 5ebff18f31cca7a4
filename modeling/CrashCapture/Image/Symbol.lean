import CrashCapture.Image.Command
import CrashCapture.Image.StoredText

/-! Symbols of an image. The symbol of an address is the closest one at or below it; entries
for debuggers and entries without a value do not count, and of equally close ones the last
in the table wins.
-/

namespace CrashCapture.Image

/-- An entry of a symbol table. -/
structure SymbolEntry where
  nameOffset : Nat
  kind : UInt8
  description : Nat
  value : UInt64
deriving DecidableEq, Repr

namespace SymbolEntry

def size : Width → Nat
  | .narrow => 12
  | .wide => 16

/-- The bits of a kind that mark entries for debuggers. -/
def debugMask : UInt8 := 0xE0

def ofRecord (width : Width) (record : List UInt8) : SymbolEntry where
  nameOffset := Memory.field record 0 4
  kind := UInt8.ofNat (Memory.field record 4 1)
  description := Memory.field record 6 2
  value := .ofNat (Memory.field record 8 width.word)

/-- Whether the entry can be the symbol of an address. -/
def isCandidate (entry : SymbolEntry) (address : UInt64) : Bool :=
  entry.kind &&& debugMask = 0 && entry.value ≠ 0 && entry.value ≤ address

end SymbolEntry

/-- How many bytes of a symbol table are read at once. -/
def tableChunk : Nat := 1024

def entriesPerChunk (width : Width) : Nat := tableChunk / SymbolEntry.size width

def entriesOfChunk (width : Width) : (count : Nat) → List UInt8 → List SymbolEntry
  | 0, _ => []
  | count + 1, bytes =>
    SymbolEntry.ofRecord width (bytes.take (SymbolEntry.size width))
      :: entriesOfChunk width count (bytes.drop (SymbolEntry.size width))

/-- The entries before the first chunk that cannot be read, from entry `index` on. -/
def entriesFrom (memory : Memory) (width : Width) (table : Address) (total index : Nat)
    : Log.Noted (List SymbolEntry) :=
  if _h : index < total then
    let count := min (entriesPerChunk width) (total - index)
    match memory.read? (table.advance (index * SymbolEntry.size width))
        (count * SymbolEntry.size width) with
    | none => do
      .note ⟨.debug, .imageWalk,
        "symbol table at " ++ table.text ++ " unreadable at entry " ++ Digits.decimal index⟩
      return []
    | some chunk => do
      let rest ← entriesFrom memory width table total (index + count)
      return entriesOfChunk width count chunk ++ rest
  else return []
termination_by total - index
decreasing_by
  have : 0 < entriesPerChunk width := by cases width <;> decide
  omega

/-- Takes the later of two candidates unless it is farther below the address. -/
def closer (address : UInt64) (best : Option SymbolEntry) (entry : SymbolEntry)
    : Option SymbolEntry :=
  if entry.isCandidate address then
    match best with
    | none => some entry
    | some found =>
      if address - entry.value ≤ address - found.value then some entry else some found
  else best

/-- The closest symbol: its linked value, and its name unless the image was stripped. -/
structure SymbolMatch where
  value : UInt64
  name : Option StoredText
deriving DecidableEq, Repr

/-- The description that stripping leaves on an image's lone symbol. -/
def strippedDescription : Nat := 16

/-- Where the symbols of an image are: a table of entries, and the texts of their names. -/
structure SymbolTable where
  entries : Address
  count : Nat
  texts : Address
  textBytes : Nat
deriving DecidableEq, Repr

namespace SymbolTable

/-- The table that a command describes, with its offsets counted from `base`. -/
def read? (memory : Memory) (base : UInt64) (command : Command) : Option SymbolTable :=
  if command.kind ≠ Command.symbolTable then none
  else
    (command.record? memory 24).map fun record =>
      { entries := ⟨base + .ofNat (Memory.field record 8 4)⟩
        count := Memory.field record 12 4
        texts := ⟨base + .ofNat (Memory.field record 16 4)⟩
        textBytes := Memory.field record 20 4 }

def nameOf? (memory : Memory) (table : SymbolTable) (entry : SymbolEntry)
    : Option StoredText :=
  if entry.description = strippedDescription || table.textBytes ≤ entry.nameOffset then none
  else
    (StoredText.find? memory (table.texts.advance entry.nameOffset)
      (table.textBytes - entry.nameOffset)).map (·.withoutUnderscore memory)

/-- The closest symbol of one table. -/
def findSymbol? (memory : Memory) (width : Width) (table : SymbolTable) (address : UInt64)
    : Log.Noted (Option SymbolMatch) := do
  let entries ← entriesFrom memory width table.entries table.count 0
  return (entries.foldl (closer address) none).map fun entry =>
    { value := entry.value, name := table.nameOf? memory entry }

end SymbolTable

/-- The closest symbol at or below a linked address, from the first table that has one. -/
def findSymbol? (memory : Memory) (header : Header) (base address : UInt64)
    : Log.Noted (Option SymbolMatch) :=
  (Commands.ofHeader memory header).findSome? fun command =>
    match SymbolTable.read? memory base command with
    | none => return none
    | some table => table.findSymbol? memory header.width address

end CrashCapture.Image
