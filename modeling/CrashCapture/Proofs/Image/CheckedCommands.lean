import CrashCapture.Proofs.Image.Segments
import CrashCapture.Proofs.Memory.Checked

/-! The header and the load commands of an image read with all checks made. What they hold may
be anything: nothing of it stops the reading, and no walk goes on beyond the count of commands.
-/

namespace CrashCapture

/-- One part goes on from the value that the other one comes to with its notices. -/
theorem Checked.Safe.bind_noted {α β : Type} {first : Checked α} {noted : Log.Noted α}
    {more : α → Checked β} {rest : α → Log.Noted β} (left : first.Safe noted.value)
    (right : ∀ value, (more value).Safe (rest value).value)
    : (first >>= more).Safe (noted >>= rest).value := left.bind (right noted.value)

end CrashCapture

namespace CrashCapture.Image

open Checked (Safe)

/-- The end of a name is looked for in its bytes, all of which belong to it otherwise. -/
def hasFixedNameChecked (field : List UInt8) (name : String) : Checked Bool := do
  let front ← Checked.slice field 0 (field.findIdx (· = 0))
  return front = Text.bytes name

/-- A fixed name is compared in slices inside of its field. -/
theorem hasFixedNameChecked_eq (field : List UInt8) (name : String)
    : hasFixedNameChecked field name = pure (hasFixedName field name) := by
  have inside : 0 + field.findIdx (· = 0) ≤ field.length := by
    rw [Nat.zero_add]
    exact List.findIdx_le_length
  have front : field.takeWhile (· ≠ 0) = field.take (field.findIdx (· = 0)) := by
    rw [List.takeWhile_eq_take_findIdx_not]
    simp only [decide_not, Bool.not_not]
  rw [hasFixedNameChecked, Checked.slice_eq inside, Checked.pure_bind, hasFixedName, front,
    List.drop_zero]

-----------------------------------------------------------------------------------------
-- The header
-----------------------------------------------------------------------------------------

namespace Header

variable {memory : Memory} {address : Address}

def readAsChecked (memory : Memory) (address : Address) (width : Width)
    : Checked (Option Header) :=
  Checked.record? memory address width.headerSize fun record => do
    return {
      address := address
      width := width
      cpuType := ← Checked.field record 4 4
      cpuSubtype := ← Checked.field record 8 4
      commandCount := ← Checked.field record 16 4
      commandBytes := ← Checked.field record 20 4 }

def readChecked (memory : Memory) (address : Address) : Checked (Option Header) := do
  match ← Checked.record? memory address 4 (Checked.field · 0 4) with
  | none => return none
  | some magic =>
    if magic = magicWide then readAsChecked memory address .wide
    else if magic = magicNarrow then readAsChecked memory address .narrow
    else return none

/-- A header is read safely in either width. -/
theorem readAsChecked_safe {width : Width}
    : (readAsChecked memory address width).Safe (readAs? memory address width) := by
  refine (Checked.Gives.record? fun record full => ?_).safe
  have room : 24 ≤ record.length := by
    rw [full]
    cases width <;> decide
  simp (disch := omega) only [Checked.field_eq, Checked.pure_bind]

/-- A header is read safely, from its magic number on. -/
theorem readChecked_safe
    : (readChecked memory address).Safe (read? memory address).value := by
  have magic : (Checked.record? memory address 4 (Checked.field · 0 4)).Safe
      (memory.number? address 4) := by
    refine (Checked.Gives.record? fun record full => ?_).safe
    rw [Checked.field_eq (Nat.le_of_eq full.symm), Memory.field_zero full]
  refine magic.bind ?_
  rw [read?]
  cases memory.number? address 4 with
  | none => exact .pure
  | some magic =>
      dsimp only
      split
      · exact readAsChecked_safe
      · split
        · exact readAsChecked_safe
        · exact .pure

end Header

-----------------------------------------------------------------------------------------
-- The walk over the load commands
-----------------------------------------------------------------------------------------

namespace Command

def recordChecked {α : Type} (memory : Memory) (command : Command) (size : Nat)
    (decode : List UInt8 → Checked α)
    : Checked (Option α) :=
  if command.size < size then return none
  else Checked.record? memory command.address size decode

/-- The record of a command is decoded safely when decoding a full one is. -/
theorem recordChecked_safe {α : Type} {memory : Memory} {command : Command} {size : Nat}
    {decode : List UInt8 → Checked α} {value : List UInt8 → α}
    (decodes : ∀ record, record.length = size → decode record = pure (value record))
    : (command.recordChecked memory size decode).Safe
        ((command.record? memory size).map value) := by
  unfold recordChecked record?
  split
  · exact .pure
  · exact (Checked.Gives.record? decodes).safe

def atChecked (memory : Memory) (address stop : Address) : Checked (Option Command) := do
  match ← Checked.read memory address minimalSize minimalSize with
  | none => return none
  | some record =>
    let kind ← Checked.field record 0 4
    let size ← Checked.field record 4 4
    if minimalSize ≤ size ∧ min (address.toNat + size) (UInt64.size - 1) ≤ stop.toNat then
      return some { kind := kind, address := address, size := size }
    else return none

/-- A command is read safely, and its end is checked against the area. -/
theorem atChecked_safe (memory : Memory) (address stop : Address)
    : (atChecked memory address stop).Safe (at? memory address stop) := by
  refine Safe.read_bind (Nat.le_refl minimalSize) ?_
  rw [at?]
  cases read : memory.read? address minimalSize with
  | none => exact .pure
  | some record =>
      have full : record.length = 8 := memory.length_read _ _ _ read
      simp (disch := omega) only [Checked.field_eq, Checked.pure_bind]
      split <;> exact .pure

end Command

/-- A walk under way: where the next command is, where the commands end, and how many are
left by the count in the header.
-/
structure Walk where
  next : Address
  stop : Address
  remaining : Nat

namespace Walk

variable {α σ : Type} {memory : Memory}

def ofHeader (header : Header) : Walk where
  next := header.firstCommand
  stop := header.firstCommand.advance header.commandBytes
  remaining := header.commandCount

/-- The commands that are still to come. -/
def list (memory : Memory) (walk : Walk) : List Command :=
  (Commands.walk memory walk.next walk.stop walk.remaining).list

/-- The next command and the walk behind it, until the count is used up or the walk breaks
off.
-/
def nextChecked (memory : Memory) (walk : Walk) : Checked (Option (Command × Walk)) :=
  if walk.remaining = 0 then return none
  else do
    match ← Command.atChecked memory walk.next walk.stop with
    | none => return none
    | some command =>
      return some (command, {
        next := walk.next.advance command.size
        stop := walk.stop
        remaining := ← Checked.sub walk.remaining 1 })

def foldChecked (memory : Memory) (visit : σ → Command → Checked σ)
    : (rounds : Nat) → Walk → σ → Checked σ
  | 0, _, _ => Checked.stop .endless
  | rounds + 1, walk, state => do
    match ← walk.nextChecked memory with
    | none => return state
    | some (command, rest) => foldChecked memory visit rounds rest (← visit state command)

def findChecked (memory : Memory) (choose : Command → Checked (Option α))
    : (rounds : Nat) → Walk → Checked (Option α)
  | 0, _ => Checked.stop .endless
  | rounds + 1, walk => do
    match ← walk.nextChecked memory with
    | none => return none
    | some (command, rest) =>
      match ← choose command with
      | some answer => return some answer
      | none => findChecked memory choose rounds rest

/-- A walk yields no more commands than the header counts. -/
theorem length_list_le (walk : Walk) : (walk.list memory).length ≤ walk.remaining := by
  obtain ⟨next, stop, remaining⟩ := walk
  rw [list]
  induction remaining generalizing next with
  | zero => exact Nat.le_refl 0
  | succ remaining ih =>
      rw [Commands.walk]
      cases Command.at? memory next stop with
      | none => exact Nat.zero_le _
      | some command => exact Nat.succ_le_succ (ih _)

/-- Either no command is left, or there is one and the walk goes on behind it. -/
theorem nextChecked_cases (memory : Memory) (walk : Walk)
    : walk.list memory = [] ∧ (walk.nextChecked memory).Safe none
      ∨ ∃ command rest, walk.list memory = command :: rest.list memory
          ∧ rest.remaining < walk.remaining
          ∧ (walk.nextChecked memory).Safe (some (command, rest)) := by
  obtain ⟨next, stop, remaining⟩ := walk
  rw [nextChecked, list]
  cases remaining with
  | zero => exact .inl ⟨rfl, .pure⟩
  | succ remaining =>
      have command := Command.atChecked_safe memory next stop
      rw [if_neg (Nat.succ_ne_zero remaining), Commands.walk]
      cases at_ : Command.at? memory next stop with
      | none =>
          rw [at_] at command
          exact .inl ⟨rfl, command.bind .pure⟩
      | some found =>
          rw [at_] at command
          refine .inr ⟨found, ⟨next.advance found.size, stop, remaining⟩, rfl,
            Nat.lt_succ_self remaining, command.bind ?_⟩
          simp only [Checked.sub_eq (Nat.le_add_left 1 remaining), Checked.pure_bind]
          exact .pure

/-- A loop over the commands visits each of them once, by induction on the rounds left. -/
theorem foldChecked_safe {visit : σ → Command → Checked σ} {step : σ → Command → σ}
    (visits : ∀ state command, (visit state command).Safe (step state command))
    {rounds : Nat} {walk : Walk} (enough : walk.remaining < rounds) (state : σ)
    : (foldChecked memory visit rounds walk state).Safe
        ((walk.list memory).foldl step state) := by
  induction rounds generalizing walk state with
  | zero => omega
  | succ rounds ih =>
      rcases walk.nextChecked_cases memory with
        ⟨none, next⟩ | ⟨command, rest, more, fewer, next⟩
      · rw [none]
        exact next.bind .pure
      · rw [more]
        exact next.bind ((visits state command).bind (ih (by omega) (step state command)))

/-- A search goes over the commands up to the first answer. -/
theorem findChecked_safe {choose : Command → Checked (Option α)} {value : Command → Option α}
    (chooses : ∀ command, (choose command).Safe (value command))
    {rounds : Nat} {walk : Walk} (enough : walk.remaining < rounds)
    : (findChecked memory choose rounds walk).Safe
        ((walk.list memory).findSome? value) := by
  induction rounds generalizing walk with
  | zero => omega
  | succ rounds ih =>
      rcases walk.nextChecked_cases memory with
        ⟨none, next⟩ | ⟨command, rest, more, fewer, next⟩
      · rw [none]
        exact next.bind .pure
      · rw [more, List.findSome?_cons]
        refine next.bind ((chooses command).bind ?_)
        cases value command with
        | none => exact ih (by omega)
        | some answer => exact .pure

end Walk

namespace Header

variable {α σ : Type}

/-- A loop over the commands of an image that is given one round more than the header counts
commands.
-/
def foldCommandsChecked (memory : Memory) (header : Header)
    (visit : σ → Command → Checked σ) (state : σ)
    : Checked σ :=
  Walk.foldChecked memory visit (header.commandCount + 1) (.ofHeader header) state

/-- A search among the commands of an image that is given as many rounds. -/
def findCommandChecked (memory : Memory) (header : Header)
    (choose : Command → Checked (Option α))
    : Checked (Option α) :=
  Walk.findChecked memory choose (header.commandCount + 1) (.ofHeader header)

/-- A fold over the commands is safe when each visit is. -/
theorem foldCommandsChecked_safe {memory : Memory} {header : Header}
    {visit : σ → Command → Checked σ} {step : σ → Command → σ}
    (visits : ∀ state command, (visit state command).Safe (step state command)) (state : σ)
    : (header.foldCommandsChecked memory visit state).Safe
        ((Commands.ofHeader memory header).list.foldl step state) :=
  Walk.foldChecked_safe visits (Nat.lt_succ_self header.commandCount) state

/-- A search over the commands is safe when each choice is. -/
theorem findCommandChecked_safe {memory : Memory} {header : Header}
    {choose : Command → Checked (Option α)} {value : Command → Log.Noted (Option α)}
    (chooses : ∀ command, (choose command).Safe (value command).value)
    : (header.findCommandChecked memory choose).Safe
        ((Commands.ofHeader memory header).findSome? value).value := by
  rw [Commands.findSome?_value]
  exact Walk.findChecked_safe chooses (Nat.lt_succ_self header.commandCount)

/-- The commands of an image are no more than its header counts. -/
theorem length_commands_le (memory : Memory) (header : Header)
    : (Commands.ofHeader memory header).list.length ≤ header.commandCount :=
  (Walk.ofHeader header).length_list_le

end Header

end CrashCapture.Image
