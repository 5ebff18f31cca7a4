import CrashCapture.Image.CrashInfo
import CrashCapture.Image.Segment
import CrashCapture.Image.Symbol
import CrashCapture.Text.Quoted
import CrashCapture.EventId

/-! The images loaded into a process: what each of them is, and which of them and which of
its symbols an address belongs to. The first image with a segment over the address wins;
there is no fallback to a near one.
-/

namespace CrashCapture.Image

/-- What the loader says of one image. An image may be gone when it is asked for. -/
structure Loaded where
  header : Option Address := none
  slide : UInt64 := 0
  name : Option (List UInt8) := none
deriving DecidableEq, Repr, Inhabited

/-- The loader's list of images. -/
structure Source where
  count : Nat
  image : Nat → Loaded

namespace Source

/-- A process in which no image can be seen. -/
def none : Source where
  count := 0
  image _ := {}

def ofList (images : List Loaded) : Source where
  count := images.length
  image index := images[index]?.getD {}

end Source

/-- The description of one image. -/
structure Description where
  address : Address
  vmAddress : UInt64
  size : UInt64
  slide : UInt64
  name : Option (List UInt8)
  uuid : Option (List UInt8)
  cpuType : Nat
  cpuSubtype : Nat
  version : Nat
  crashInfo : CrashInfo
deriving DecidableEq, Repr

namespace Description

def majorVersion (image : Description) : Nat := image.version / 0x10000

def minorVersion (image : Description) : Nat := image.version / 0x100 % 0x100

def revision (image : Description) : Nat := image.version % 0x100

/-- The name, when it is text. -/
def nameText? (image : Description) : Option String := image.name.bind Utf8.decode?

/-- The identifier in its written form. -/
def uuidText? (image : Description) : Option String :=
  image.uuid.map fun bytes =>
    let half (bytes : List UInt8) : UInt64 := .ofNat (Memory.littleEndian bytes.reverse)
    (EventId.mk (half (bytes.take 8)) (half (bytes.drop 8))).text

end Description

/-- What one pass over the load commands collects. -/
structure Survey where
  text : Option (UInt64 × UInt64) := none
  uuid : Option (List UInt8) := none
  version : Nat := 0
  crashSection : Option Section := none
deriving DecidableEq, Repr

namespace Survey

def uuidOf? (memory : Memory) (command : Command) : Option (List UInt8) :=
  (command.record? memory 24).map fun record => (record.drop 8).take 16

def versionOf? (memory : Memory) (command : Command) : Option Nat :=
  (command.record? memory 24).map fun record => Memory.field record 16 4

def addSegment (memory : Memory) (width : Width) (survey : Survey) (segment : Segment)
    : Survey :=
  if segment.isNamed "__TEXT" then
    { survey with text := some (segment.vmAddress, segment.vmSize) }
  else if segment.isNamed "__DATA" ∧ width = .wide then
    { survey with
      crashSection := survey.crashSection <|> segment.findSection? memory "__crash_info" }
  else survey

/-- Of the text segment, the identifier and the version the last one counts; of sections
with crash information the first. -/
def add (memory : Memory) (width : Width) (survey : Survey) (command : Command) : Survey :=
  if command.kind = Command.segment ∨ command.kind = Command.segmentWide then
    match Segment.read? memory command with
    | none => survey
    | some segment => survey.addSegment memory width segment
  else if command.kind = Command.uuid then
    { survey with uuid := uuidOf? memory command }
  else if command.kind = Command.libraryId then
    { survey with version := (versionOf? memory command).getD 0 }
  else survey

end Survey

/-- What an address resolves to. -/
structure Resolution where
  imageIndex : Nat
  imageName : Option (List UInt8)
  imageAddress : Address
  symbolAddress : Option Address
  symbolName : Option StoredText
deriving DecidableEq, Repr

/-- How far above its symbol an address lies. -/
def Resolution.offset? (resolution : Resolution) (address : Address) : Option UInt64 :=
  resolution.symbolAddress.bind address.offsetFrom?

/-- Images and the memory that they are looked at through. -/
structure Table where
  source : Source
  memory : Memory

namespace Table

def shownName (name : Option (List UInt8)) : String :=
  match name with
  | none => "None"
  | some bytes => "Some(" ++ Text.quotedBytes bytes ++ ")"

/-- Describes the image whose header stands at an address. -/
def describe? (table : Table) (address : Address) (name : Option (List UInt8))
    : Log.Noted (Option Description) := do
  match ← Header.read? table.memory address with
  | none => return none
  | some header =>
    let commands ← (Commands.ofHeader table.memory header).all
    let survey := commands.foldl (Survey.add table.memory header.width) {}
    let (vmAddress, size) := survey.text.getD (0, 0)
    let slide := address.value - vmAddress
    let crashInfo ← match survey.crashSection with
      | none => pure {}
      | some found =>
        .note ⟨.trace, .images, "found crash info section in " ++ shownName name⟩
        CrashInfo.read table.memory ⟨found.address + slide⟩ found.size.toNat
    return some {
      address := address
      vmAddress := vmAddress
      size := size
      slide := slide
      name := name
      uuid := survey.uuid
      cpuType := header.cpuType
      cpuSubtype := header.cpuSubtype
      version := survey.version
      crashInfo := crashInfo }

/-- Describes an image by its place in the list, unless it is gone or corrupt. -/
def imageAt? (table : Table) (index : Nat) : Log.Noted (Option Description) :=
  match (table.source.image index).header with
  | none => return none
  | some address => table.describe? address (table.source.image index).name

/-- All images that can be described. -/
def images (table : Table) : Log.Noted (List Description) := do
  let described ← (List.range table.source.count).mapM table.imageAt?
  return described.filterMap id

/-- The first place in the list, from `index` on, that passes a test. -/
def findIndex? (test : Nat → Log.Noted Bool) : (index left : Nat) → Log.Noted (Option Nat)
  | _, 0 => return none
  | index, left + 1 => do
    if ← test index then return some index else findIndex? test (index + 1) left

/-- Whether `part` stands somewhere in a list. -/
def holds (part : List UInt8) : List UInt8 → Bool
  | [] => part.isEmpty
  | byte :: rest => part.isPrefixOf (byte :: rest) || holds part rest

/-- The first image whose path is `name`, or has it as a part. -/
def findByName? (table : Table) (name : String) (exact : Bool) : Option Nat :=
  (List.range table.source.count).find? fun index =>
    match (table.source.image index).name with
    | none => false
    | some path =>
      if exact then path = Text.bytes name else holds (Text.bytes name) path

/-- The identifier of the image found by name: that of its first command for one. -/
def imageUuid? (table : Table) (name : String) (exact : Bool)
    : Log.Noted (Option (List UInt8)) := do
  match table.findByName? name exact with
  | none => return none
  | some index =>
    match (table.source.image index).header with
    | none => return none
    | some address =>
      match ← Header.read? table.memory address with
      | none => return none
      | some header =>
        let found ← (Commands.ofHeader table.memory header).findSome? fun command =>
          return (some command).filter (·.kind = Command.uuid)
        return found.bind (Survey.uuidOf? table.memory)

/-- Whether an image has a segment over an address. -/
def covers (table : Table) (address : Address) (index : Nat) : Log.Noted Bool := do
  match (table.source.image index).header with
  | none => return false
  | some start =>
    match ← Header.read? table.memory start with
    | none => return false
    | some header =>
      segmentContains table.memory header (address.value - (table.source.image index).slide)

/-- The first image with a segment over an address. -/
def indexContaining? (table : Table) (address : Address) : Log.Noted (Option Nat) :=
  findIndex? (table.covers address) 0 table.source.count

/-- The symbol of an address in an image that covers it; none when the image does not say
where its tables are. -/
def resolveIn? (table : Table) (index : Nat) (start : Address) (header : Header)
    (address : Address)
    : Log.Noted (Option Resolution) := do
  let image := table.source.image index
  match ← fileBase? table.memory header with
  | none => return none
  | some linked =>
    let base := linked + image.slide
    if base = 0 then return none
    else
      let symbol ←
        findSymbol? table.memory header base (address.value - image.slide)
      return some {
        imageIndex := index
        imageName := image.name
        imageAddress := start
        symbolAddress := symbol.map fun found => ⟨found.value + image.slide⟩
        symbolName := symbol.bind (·.name) }

/-- Maps an address to its image and to the closest symbol at or below it. -/
def resolve? (table : Table) (address : Address) : Log.Noted (Option Resolution) := do
  match ← table.indexContaining? address with
  | none => return none
  | some index =>
    match (table.source.image index).header with
    | none => return none
    | some start =>
      match ← Header.read? table.memory start with
      | none => return none
      | some header => table.resolveIn? index start header address

end Table

end CrashCapture.Image
