import CrashCapture.Image.Header

/-! The load commands behind a header. The walk trusts neither the count nor the sizes: it
ends at the first command that cannot be read, is shorter than its own start, or leaves the
area that the header declares.
-/

namespace CrashCapture.Image

/-- One load command: its kind, where it is and how long it is. -/
structure Command where
  kind : Nat
  address : Address
  size : Nat
deriving DecidableEq, Repr

namespace Command

def segment : Nat := 0x1
def symbolTable : Nat := 0x2
def libraryId : Nat := 0xD
def segmentWide : Nat := 0x19
def uuid : Nat := 0x1B

/-- The bytes every command starts with: kind and size. -/
def minimalSize : Nat := 8

/-- The first `size` bytes of a command, when it is that long and they can be read. -/
def record? (memory : Memory) (command : Command) (size : Nat) : Option (List UInt8) :=
  if command.size < size then none else memory.read? command.address size

/-- The command at `address`, when it lies below `stop`. -/
def at? (memory : Memory) (address stop : Address) : Option Command :=
  match memory.read? address minimalSize with
  | none => none
  | some record =>
    let size := Memory.field record 4 4
    if minimalSize ≤ size ∧ min (address.toNat + size) (UInt64.size - 1) ≤ stop.toNat then
      some { kind := Memory.field record 0 4, address := address, size := size }
    else none

end Command

/-- The commands of a walk in order, and the address of the one at which it broke off. -/
structure Commands where
  list : List Command
  brokenAt : Option Address
deriving DecidableEq, Repr

namespace Commands

/-- Walks over at most `remaining` commands from `address` on. -/
def walk (memory : Memory) (address stop : Address) : (remaining : Nat) → Commands
  | 0 => ⟨[], none⟩
  | remaining + 1 =>
    match Command.at? memory address stop with
    | none => ⟨[], some address⟩
    | some command =>
      let rest := walk memory (address.advance command.size) stop remaining
      ⟨command :: rest.list, rest.brokenAt⟩

/-- The load commands of an image. -/
def ofHeader (memory : Memory) (header : Header) : Commands :=
  walk memory header.firstCommand (header.firstCommand.advance header.commandBytes)
    header.commandCount

/-- What is said when a walk gets to the place where it breaks off. -/
def noteBroken (commands : Commands) : Log.Noted Unit :=
  match commands.brokenAt with
  | none => return ()
  | some address =>
    .note ⟨.trace, .imageWalk,
      "load command at " ++ address.text ++ " is unreadable or out of bounds"⟩

/-- The first answer that `choose` has for a command; the walk goes no further than that. -/
def findSome? {α : Type} (commands : Commands) (choose : Command → Log.Noted (Option α))
    : Log.Noted (Option α) :=
  go commands.list
where
  go : List Command → Log.Noted (Option α)
    | [] => do
      commands.noteBroken
      return none
    | command :: rest => do
      match ← choose command with
      | some answer => return some answer
      | none => go rest

/-- All commands of the walk. -/
def all (commands : Commands) : Log.Noted (List Command) := do
  commands.noteBroken
  return commands.list

end Commands

end CrashCapture.Image
