import CrashCapture.Memory.Reader

/-! Computations with machine numbers and buffers. A sum may not fit into 64 bits, a difference
may fall below zero, and a buffer has an end; what goes past that stops the program. Such a
computation makes all these checks and keeps account of the reads of memory that it makes, so
that it can be proved never to be stopped, and to read no more than it should. Only what is
meant to wrap, such as moving an address, is not checked.
-/

namespace CrashCapture

/-- What stops a computation. -/
inductive Fault where
  | overflow
  | underflow
  | noDivisor
  | noWidth
  | outOfRange
  /-- A loop goes on beyond the number of rounds that it is known to make. -/
  | endless
deriving DecidableEq, Repr

/-- A read of so many bytes from an address on, whether it succeeded or not. -/
structure Access where
  address : Address
  count : Nat
deriving DecidableEq, Repr

/-- How many bytes some reads ask for in all. -/
def Access.total : List Access → Nat
  | [] => 0
  | read :: rest => read.count + total rest

/-- A first read adds what it asks for. -/
theorem Access.total_cons (address : Address) (count : Nat) (rest : List Access)
    : total (⟨address, count⟩ :: rest) = count + total rest := rfl

/-- The value and the reads made on the way to it, or what stopped the computation. -/
def Checked (α : Type) : Type := Except Fault (α × List Access)

namespace Checked

variable {α β : Type}

-----------------------------------------------------------------------------------------
-- Checked steps
-----------------------------------------------------------------------------------------

instance : Monad Checked where
  pure value := .ok (value, [])
  bind first more :=
    match first with
    | .error fault => .error fault
    | .ok (value, reads) =>
      match more value with
      | .error fault => .error fault
      | .ok (result, later) => .ok (result, reads ++ later)

def stop (fault : Fault) : Checked α := .error fault

def add (a b : Nat) : Checked Nat :=
  if a + b < UInt64.size then return a + b else stop .overflow

def sub (a b : Nat) : Checked Nat := if b ≤ a then return a - b else stop .underflow

def mul (a b : Nat) : Checked Nat :=
  if a * b < UInt64.size then return a * b else stop .overflow

def quotient (a b : Nat) : Checked Nat := if b = 0 then stop .noDivisor else return a / b

def remainder (a b : Nat) : Checked Nat := if b = 0 then stop .noDivisor else return a % b

/-- How far one word is above another one. -/
def distance (high low : UInt64) : Checked UInt64 :=
  if low ≤ high then return high - low else stop .underflow

/-- So many elements of a buffer from `start` on. -/
def slice (buffer : List α) (start count : Nat) : Checked (List α) :=
  if start + count ≤ buffer.length then return (buffer.drop start).take count
  else stop .outOfRange

/-- The buffer with another element at a place that it has. -/
def store (buffer : List α) (index : Nat) (element : α) : Checked (List α) :=
  if index < buffer.length then return buffer.set index element else stop .outOfRange

/-- The number in `width` bytes of a record, all of which the record must have. -/
def field (record : List UInt8) (offset width : Nat) : Checked Nat := do
  let bytes ← slice record offset width
  return Memory.littleEndian bytes

/-- Reads memory into the front of a buffer of `capacity` bytes. -/
def read (memory : Memory) (address : Address) (count capacity : Nat)
    : Checked (Option (List UInt8)) :=
  if count ≤ capacity then .ok (memory.read? address count, [⟨address, count⟩])
  else stop .outOfRange

/-- Reads a record of that size and decodes it. -/
def record? (memory : Memory) (address : Address) (size : Nat)
    (decode : List UInt8 → Checked α)
    : Checked (Option α) := do
  match ← read memory address size size with
  | none => return none
  | some record => return some (← decode record)

/-- All parts of a list that are so many elements wide. -/
def parts (list : List α) (width : Nat) : List (List α) :=
  (List.range (list.length + 1 - width)).map fun start => (list.drop start).take width

/-- The parts of a list of a width, which must not be zero. -/
def windows (list : List α) (width : Nat) : Checked (List (List α)) :=
  if width = 0 then stop .noWidth else return parts list width

/-- What follows a value that was come to without reading goes on from it. -/
@[simp]
theorem pure_bind (value : α) (more : α → Checked β)
    : (pure value >>= more : Checked β) = more value := by
  show
    (match more value with
      | .error fault => .error fault
      | .ok (result, later) => .ok (result, [] ++ later))
      = more value
  cases more value <;> rfl

/-- A sum that fits is not stopped. -/
theorem add_eq {a b : Nat} (fits : a + b < UInt64.size) : add a b = pure (a + b) :=
  if_pos fits

/-- A difference from no less is not stopped. -/
theorem sub_eq {a b : Nat} (below : b ≤ a) : sub a b = pure (a - b) := if_pos below

/-- A product that fits is not stopped. -/
theorem mul_eq {a b : Nat} (fits : a * b < UInt64.size) : mul a b = pure (a * b) :=
  if_pos fits

/-- A quotient by another number than zero is not stopped. -/
theorem quotient_eq {a b : Nat} (divisor : b ≠ 0) : quotient a b = pure (a / b) :=
  if_neg divisor

/-- A remainder by another number than zero is not stopped. -/
theorem remainder_eq {a b : Nat} (divisor : b ≠ 0) : remainder a b = pure (a % b) :=
  if_neg divisor

/-- The distance from a word that is not above is not stopped. -/
theorem distance_eq {high low : UInt64} (below : low ≤ high)
    : distance high low = pure (high - low) := if_pos below

/-- A slice inside of the buffer is not stopped. -/
theorem slice_eq {buffer : List α} {start count : Nat}
    (inside : start + count ≤ buffer.length)
    : slice buffer start count = pure ((buffer.drop start).take count) := if_pos inside

example : slice [1, 2, 3] 2 2 = stop .outOfRange := rfl

/-- An element is stored at an index inside of the buffer. -/
theorem store_eq {buffer : List α} {index : Nat} {element : α}
    (inside : index < buffer.length)
    : store buffer index element = pure (buffer.set index element) := if_pos inside

/-- A field inside of the record is not stopped, and reads the number that is there. -/
theorem field_eq {record : List UInt8} {offset width : Nat}
    (inside : offset + width ≤ record.length)
    : field record offset width = pure (Memory.field record offset width) := by
  rw [field, slice_eq inside, pure_bind]
  rfl

/-- Windows of some width are not stopped. -/
theorem windows_eq {list : List α} {width : Nat} (wide : width ≠ 0)
    : windows list width = pure (parts list width) := if_neg wide

/-- The parts of a width are the infixes that long. -/
theorem mem_parts {list part : List α}
    : part ∈ parts list part.length ↔ part <:+: list := by
  simp only [parts, List.mem_map, List.mem_range]
  constructor
  · rintro ⟨start, _, here⟩
    rw [← here]
    exact (List.take_prefix _ _).isInfix.trans (List.drop_suffix _ _).isInfix
  · rintro ⟨front, back, rfl⟩
    refine ⟨front.length, ?_, ?_⟩
    · simp only [List.length_append]
      omega
    · rw [List.append_assoc, List.drop_left, List.take_left]

/-- A filter whose test does not read is the filter by the values of the test. -/
theorem filterM_eq {test : α → Checked Bool} {value : α → Bool}
    (tests : ∀ element, test element = pure (value element)) (found : Option α)
    : found.filterM test = pure (found.filter value) := by
  cases found with
  | none => rfl
  | some element =>
      rw [Option.filterM, tests, Option.filter_some]
      rfl

/-- A loop over a list whose steps do not read is the fold of their values. -/
theorem foldlM_eq {visit : β → α → Checked β} {step : β → α → β}
    (visits : ∀ state element, visit state element = pure (step state element))
    (list : List α) (state : β)
    : list.foldlM visit state = pure (list.foldl step state) := by
  induction list generalizing state with
  | nil => rfl
  | cons element rest ih => rw [List.foldlM_cons, visits, pure_bind, ih, List.foldl_cons]

-----------------------------------------------------------------------------------------
-- Coming to a value
-----------------------------------------------------------------------------------------

/-- The computation is not stopped: it comes to the value, and its reads are as bounded. -/
def Gives (run : Checked α) (value : α) (bounded : List Access → Prop) : Prop :=
  ∃ reads, run = .ok (value, reads) ∧ bounded reads

/-- The computation is not stopped and comes to the value. -/
abbrev Safe (run : Checked α) (value : α) : Prop := run.Gives value fun _ => True

namespace Gives

variable {value : α} {result : β} {bounded later whole : List Access → Prop}

/-- A value that is there needs no reads. -/
theorem pure (none : bounded []) : (Pure.pure value : Checked α).Gives value bounded :=
  ⟨[], rfl, none⟩

/-- What bounds the reads may be loosened. -/
theorem mono {run : Checked α} (gives : run.Gives value bounded)
    (looser : ∀ reads, bounded reads → later reads)
    : run.Gives value later := by
  obtain ⟨reads, same, holds⟩ := gives
  exact ⟨reads, same, looser reads holds⟩

/-- A computation with bounded reads is not stopped. -/
theorem safe {run : Checked α} (gives : run.Gives value bounded) : run.Safe value :=
  gives.mono fun _ _ => trivial

/-- One part goes on from the value of the other one, and their reads add up. -/
theorem bind {first : Checked α} {more : α → Checked β} (left : first.Gives value bounded)
    (right : (more value).Gives result later)
    (sum : ∀ reads rest, bounded reads → later rest → whole (reads ++ rest))
    : (first >>= more).Gives result whole := by
  obtain ⟨reads, rfl, here⟩ := left
  obtain ⟨rest, same, there⟩ := right
  refine ⟨reads ++ rest, ?_, sum reads rest here there⟩
  show
    (match more value with
      | .error fault => .error fault
      | .ok (result, later) => .ok (result, reads ++ later))
      = Except.ok (result, reads ++ rest)
  rw [same]

/-- What goes on without reading leaves the reads as they are. -/
theorem bind_pure {first : Checked α} {more : α → Checked β}
    (left : first.Gives value bounded) (right : more value = Pure.pure result)
    : (first >>= more).Gives result bounded := by
  have none : (more value).Gives result (· = []) := right ▸ pure rfl
  refine left.bind none fun reads rest here empty => ?_
  rwa [empty, List.append_nil]

/-- A read into a buffer with room for it, and what goes on from what was read. -/
theorem read_bind {memory : Memory} {address : Address} {count capacity : Nat}
    {more : Option (List UInt8) → Checked β} (room : count ≤ capacity)
    (right : (more (memory.read? address count)).Gives result later)
    (sum : ∀ rest, later rest → whole (⟨address, count⟩ :: rest))
    : (read memory address count capacity >>= more).Gives result whole := by
  have reads
      : (read memory address count capacity).Gives (memory.read? address count)
          (· = [⟨address, count⟩]) := ⟨_, if_pos room, rfl⟩
  refine reads.bind right fun here rest same there => ?_
  rw [same]
  exact sum rest there

/-- A record is decoded only when all of it was read, and nothing else is read for it. -/
theorem record?_reads {memory : Memory} {address : Address} {size : Nat}
    {decode : List UInt8 → Checked α} {value : List UInt8 → α}
    (decodes : ∀ record, record.length = size → decode record = Pure.pure (value record))
    : (Checked.record? memory address size decode).Gives
        ((memory.read? address size).map value) (· = [⟨address, size⟩]) := by
  refine read_bind (Nat.le_refl size) ?_ fun rest (none : rest = []) => none ▸ rfl
  cases read : memory.read? address size with
  | none => exact pure rfl
  | some record =>
      simp only [decodes record (memory.length_read _ _ _ read), pure_bind]
      exact pure rfl

/-- A record is read only once. -/
theorem record? {memory : Memory} {address : Address} {size : Nat}
    {decode : List UInt8 → Checked α} {value : List UInt8 → α}
    (decodes : ∀ record, record.length = size → decode record = Pure.pure (value record))
    : (Checked.record? memory address size decode).Gives
        ((memory.read? address size).map value) (·.length ≤ 1) :=
  (record?_reads decodes).mono fun _ one => one ▸ Nat.le_refl 1

/-- A search whose every test reads only where it may reads only there. -/
theorem findSomeM?_within {find : α → Checked (Option β)} {value : α → Option β}
    {list : List α} {allowed : Access → Prop}
    (finds : ∀ element ∈ list, (find element).Gives (value element) (∀ read ∈ ·, allowed read))
    : (list.findSomeM? find).Gives (list.findSome? value) (∀ read ∈ ·, allowed read) := by
  have both (reads rest : List Access) (here : ∀ read ∈ reads, allowed read)
      (there : ∀ read ∈ rest, allowed read)
      : ∀ read ∈ reads ++ rest, allowed read :=
    fun read member => (List.mem_append.mp member).elim (here read) (there read)
  have nothing : ∀ read ∈ [], allowed read := fun read none => absurd none List.not_mem_nil
  induction list with
  | nil => exact pure nothing
  | cons element rest ih =>
      have here := finds element List.mem_cons_self
      have there := ih fun other member => finds other (List.mem_cons_of_mem _ member)
      rw [List.findSomeM?, List.findSome?_cons]
      cases found : value element with
      | none => exact (found ▸ here).bind there both
      | some answer => exact (found ▸ here).bind (pure nothing) both

/-- A search that reads at most once for an element reads no more often than there are
elements.
-/
theorem findSomeM? {find : α → Checked (Option β)} {value : α → Option β} {list : List α}
    (finds : ∀ element ∈ list, (find element).Gives (value element) (·.length ≤ 1))
    : (list.findSomeM? find).Gives (list.findSome? value) (·.length ≤ list.length) := by
  induction list with
  | nil => exact pure (Nat.le_refl 0)
  | cons element rest ih =>
      have here := finds element List.mem_cons_self
      have there := ih fun other member => finds other (List.mem_cons_of_mem _ member)
      rw [List.findSomeM?, List.findSome?_cons]
      cases found : value element with
      | none =>
          rw [found] at here
          refine here.bind there fun reads later one most => ?_
          rw [List.length_append, List.length_cons]
          omega
      | some answer =>
          rw [found] at here
          refine here.bind (pure (Nat.le_refl 0))
            fun reads later one (none : later.length ≤ 0) => ?_
          rw [List.length_append, List.length_cons]
          omega

end Gives

namespace Safe

variable {value : α} {result : β}

/-- A value that is there is not stopped. -/
theorem pure : (Pure.pure value : Checked α).Safe value := Gives.pure trivial

/-- A sequence is not stopped when its parts are not. -/
theorem bind {first : Checked α} {more : α → Checked β} (left : first.Safe value)
    (right : (more value).Safe result)
    : (first >>= more).Safe result := Gives.bind left right fun _ _ _ _ => trivial

/-- A read into a buffer with room for it is not stopped, and what goes on is up to itself. -/
theorem read_bind {memory : Memory} {address : Address} {count capacity : Nat}
    {more : Option (List UInt8) → Checked β} (room : count ≤ capacity)
    (right : (more (memory.read? address count)).Safe result)
    : (read memory address count capacity >>= more).Safe result :=
  Gives.read_bind room right fun _ _ => trivial

/-- A search whose test is not stopped is not stopped. -/
theorem findM? {test : α → Checked Bool} {value : α → Bool} {list : List α}
    (tests : ∀ element, (test element).Safe (value element))
    : (list.findM? test).Safe (list.find? value) := by
  induction list with
  | nil => exact pure
  | cons element rest ih =>
      rw [List.findM?, List.find?_cons]
      refine (tests element).bind ?_
      cases value element with
      | true => exact pure
      | false => exact ih

end Safe

end Checked

-----------------------------------------------------------------------------------------
-- Records and ranges
-----------------------------------------------------------------------------------------

namespace Memory

/-- How many numbers so many bytes can hold. -/
def holdable : (width : Nat) → Nat
  | 0 => 1
  | width + 1 => 256 * holdable width

theorem littleEndian_lt (bytes : List UInt8) : littleEndian bytes < holdable bytes.length := by
  induction bytes with
  | nil => exact Nat.one_pos
  | cons byte rest ih =>
      have small := byte.toNat_lt
      rw [littleEndian, List.length_cons, holdable]
      omega

theorem holdable_mono {narrow wide : Nat} (within : narrow ≤ wide)
    : holdable narrow ≤ holdable wide := by
  induction within with
  | refl => exact Nat.le_refl _
  | step _ ih =>
      rw [holdable]
      omega

theorem field_lt (record : List UInt8) (offset width : Nat)
    : field record offset width < holdable width := by
  have few : ((record.drop offset).take width).length ≤ width := by
    rw [List.length_take]
    exact Nat.min_le_left _ _
  exact Nat.lt_of_lt_of_le (littleEndian_lt _) (holdable_mono few)

/-- All of a number that stands at the start of a record of its width. -/
theorem field_zero {record : List UInt8} {width : Nat} (full : record.length = width)
    : field record 0 width = littleEndian record := by
  rw [field, List.drop_zero, List.take_of_length_le (Nat.le_of_eq full)]

/-- Whether `count` bytes can be read, `offset` of them being known to be readable. -/
def probeChecked (memory : Memory) (address : Address) (count : Nat)
    : (rounds offset : Nat) → Checked Bool
  | 0, _ => Checked.stop .endless
  | rounds + 1, offset =>
    if offset < count then do
      let left ← Checked.sub count offset
      let piece := min left probeSize
      match ← Checked.read memory (address.advance offset) piece probeSize with
      | none => return false
      | some _ =>
        probeChecked memory address count rounds (← Checked.add offset piece)
    else return true

/-- Every round probes one byte at least, so the count is enough for the rounds. -/
def isReadableChecked (memory : Memory) (address : Address) (count : Nat) : Checked Bool :=
  memory.probeChecked address count (count + 1) 0

end Memory

theorem Address.advance_zero (address : Address) : address.advance 0 = address :=
  congrArg mk (UInt64.add_zero address.value)

theorem Address.advance_advance (address : Address) (first second : Nat)
    : (address.advance first).advance second = address.advance (first + second) := by
  simp only [advance, add, UInt64.ofNat_add, UInt64.add_assoc]

/-- A probe tells whether the bytes behind its offset can be read, by induction on the rounds
left.
-/
theorem Memory.probeChecked_safe {memory : Memory} {address : Address}
    {count rounds offset : Nat} (fits : count < UInt64.size) (enough : count - offset < rounds)
    : (memory.probeChecked address count rounds offset).Safe
        (memory.isReadable (address.advance offset) (count - offset)) := by
  induction rounds generalizing offset with
  | zero => omega
  | succ rounds ih =>
      rw [probeChecked, isReadable]
      split
      case isTrue more =>
        have some_left : count - offset ≠ 0 := by omega
        have positive : 0 < probeSize := by decide
        rw [if_neg some_left, Checked.sub_eq (Nat.le_of_lt more), Checked.pure_bind]
        dsimp only
        refine .read_bind (Nat.min_le_right _ _) ?_
        cases memory.read? (address.advance offset) (min (count - offset) probeSize) with
        | none => exact .pure
        | some piece =>
            have room : offset + min (count - offset) probeSize < UInt64.size := by omega
            simp only [Checked.add_eq room, Checked.pure_bind, Option.isSome_some,
              Bool.true_and, Address.advance_advance, Nat.sub_sub]
            exact ih (by omega)
      case isFalse done =>
        rw [if_pos (by omega)]
        exact .pure

theorem Memory.isReadableChecked_safe (memory : Memory) (address : Address) {count : Nat}
    (fits : count < UInt64.size)
    : (memory.isReadableChecked address count).Safe (memory.isReadable address count) := by
  have probe : (memory.isReadableChecked address count).Safe
      (memory.isReadable (address.advance 0) (count - 0)) :=
    probeChecked_safe fits (Nat.lt_succ_self count)
  rwa [Address.advance_zero] at probe

end CrashCapture
