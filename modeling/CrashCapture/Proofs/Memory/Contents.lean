import CrashCapture.Memory.Live

/-! What stands behind the answers of a memory. A byte stands at every position that can be
read, and whether it can be read is decided for each byte by itself or for each page.
-/

namespace CrashCapture

namespace Address

/-- The number of the page that an address lies in. -/
def page (address : Address) : Nat := address.toNat / Memory.pageSize

/-- A move wraps at the end of the address space. -/
theorem toNat_advance_mod (address : Address) (offset : Nat)
    : (address.advance offset).toNat = (address.toNat + offset) % UInt64.size := by
  show (address.value + UInt64.ofNat offset).toNat = _
  rw [UInt64.toNat_add, UInt64.toNat_ofNat']
  exact Nat.add_mod_mod _ _ _

/-- A move that stays in the address space does not wrap. -/
theorem toNat_advance {address : Address} {offset : Nat}
    (inside : address.toNat + offset < UInt64.size)
    : (address.advance offset).toNat = address.toNat + offset := by
  rw [toNat_advance_mod, Nat.mod_eq_of_lt inside]

/-- The address space consists of whole pages, so nothing in a page is beyond its end. -/
theorem inside_of_page {address : Address} {offset : Nat}
    (within : address.toNat % Memory.pageSize + offset < Memory.pageSize)
    : address.toNat + offset < UInt64.size := by
  have pages : UInt64.size = Memory.pageSize * (UInt64.size / Memory.pageSize) := by decide
  have bound : address.toNat < UInt64.size := address.value.toNat_lt
  have split := Nat.div_add_mod address.toNat Memory.pageSize
  have before : address.page < UInt64.size / Memory.pageSize :=
    Nat.div_lt_of_lt_mul (pages ▸ bound)
  have next := Nat.mul_le_mul_left Memory.pageSize before
  rw [page, Nat.mul_succ] at next
  omega

/-- A move within a page stays in that page. -/
theorem page_advance {address : Address} {offset : Nat}
    (within : address.toNat % Memory.pageSize + offset < Memory.pageSize)
    : (address.advance offset).page = address.page := by
  rw [page, page, toNat_advance (inside_of_page within)]
  simp only [Memory.pageSize] at *
  omega

end Address

namespace Memory

/-- The bytes stand at the positions from `start` on. -/
def Holds (byte? : Nat → Option UInt8) (start : Nat) (bytes : List UInt8) : Prop :=
  ∀ index < bytes.length, byte? (start + index) = bytes[index]?

/-- What is read within one page are the bytes that stand there. -/
def Shows (memory : Memory) (byte? : Nat → Option UInt8) : Prop :=
  ∀ address count bytes,
    address.toNat % pageSize + count ≤ pageSize
    → memory.read? address count = some bytes
    → Holds byte? address.toNat bytes

/-- Readability is decided for each byte: a read of some bytes succeeds exactly when it stays
in the address space and each of them can be read.
-/
structure Bytewise (memory : Memory) (byte? : Nat → Option UInt8) : Prop where
  read?_eq_some_iff
    : ∀ {address count bytes},
        0 < count
        → (memory.read? address count = some bytes
          ↔ address.toNat + count ≤ UInt64.size ∧ bytes.length = count
            ∧ Holds byte? address.toNat bytes)

/-- Readability is decided for each page: a read of some bytes within one page succeeds
exactly when the page can be read. Of reads beyond a page nothing is said.
-/
structure Paged (memory : Memory) (pages : Pages) : Prop where
  read?_eq
    : ∀ {address count},
        0 < count
        → address.toNat % pageSize + count ≤ pageSize
        → memory.read? address count
          = if pages.readable address.page then some (pages.slice address.toNat count)
            else none

theorem Bytewise.shows {memory : Memory} {byte? : Nat → Option UInt8}
    (bytewise : memory.Bytewise byte?)
    : memory.Shows byte? := by
  intro address count bytes _ read
  rcases Nat.eq_zero_or_pos count with rfl | positive
  · intro index inside
    rw [memory.length_read _ _ _ read] at inside
    omega
  · exact ((bytewise.read?_eq_some_iff positive).mp read).2.2

/-- The byte at a position, when its page can be read. -/
def Pages.byte? (pages : Pages) (position : Nat) : Option UInt8 :=
  if pages.readable (position / pageSize) then some (pages.byte position) else none

theorem Pages.byte?_eq_some_iff {pages : Pages} {position : Nat} {byte : UInt8}
    : pages.byte? position = some byte
      ↔ pages.readable (position / pageSize) = true ∧ pages.byte position = byte := by
  rw [byte?]
  split
  case isTrue readable => simp [readable]
  case isFalse unreadable => simp [unreadable]

theorem Paged.shows {memory : Memory} {pages : Pages} (paged : memory.Paged pages)
    : memory.Shows pages.byte? := by
  intro address count bytes within read index inside
  have length := memory.length_read _ _ _ read
  have page : (address.toNat + index) / pageSize = address.page := by
    have here : address.toNat % pageSize + index < pageSize := by omega
    rw [← Address.page_advance here, Address.page,
      Address.toNat_advance (Address.inside_of_page here)]
  rw [paged.read?_eq (by omega) within] at read
  split at read
  case isTrue readable =>
    obtain rfl := Option.some.inj read
    rw [Pages.byte?, page, if_pos readable]
    simp only [Pages.slice, List.length_map, List.length_range] at inside
    simp only [Pages.slice, List.getElem?_map, List.getElem?_range inside, Option.map_some]
  case isFalse => cases read

theorem holds_cons_iff {byte? : Nat → Option UInt8} {start : Nat} {byte : UInt8}
    {rest : List UInt8}
    : Holds byte? start (byte :: rest)
      ↔ byte? start = some byte ∧ Holds byte? (start + 1) rest := by
  constructor
  · intro holds
    refine ⟨holds 0 (Nat.zero_lt_succ _), fun index inside => ?_⟩
    rw [Nat.add_right_comm]
    exact holds (index + 1) (Nat.succ_lt_succ inside)
  · rintro ⟨first, holds⟩ (_ | index) inside
    · exact first
    · rw [← Nat.add_assoc, Nat.add_right_comm]
      exact holds index (Nat.lt_of_succ_lt_succ inside)

-----------------------------------------------------------------------------------------
-- Memory given as regions, and the memory of the running process
-----------------------------------------------------------------------------------------

theorem regionBytes?_eq_some_iff {regions : List Region} {position count : Nat}
    {bytes : List UInt8}
    : regionBytes? regions position count = some bytes
      ↔ bytes.length = count ∧ Holds (regionByte? regions) position bytes := by
  induction count generalizing position bytes with
  | zero => cases bytes <;> simp [regionBytes?, Holds]
  | succ count ih =>
      rw [regionBytes?]
      cases bytes with
      | nil => cases regionByte? regions position <;> simp
      | cons byte rest =>
          rw [holds_cons_iff, List.length_cons, Nat.succ_inj]
          cases found : regionByte? regions position with
          | none => simp
          | some here =>
              simp only [Option.map_eq_some_iff, ih, List.cons.injEq, Option.some.injEq]
              constructor
              · rintro ⟨others, ⟨length, holds⟩, rfl, rfl⟩
                exact ⟨length, rfl, holds⟩
              · rintro ⟨length, rfl, holds⟩
                exact ⟨rest, ⟨length, holds⟩, rfl, rfl⟩

/-- Regions decide for each byte whether it can be read. -/
theorem ofRegions_bytewise (regions : List Region)
    : (ofRegions regions).Bytewise (regionByte? regions) := by
  refine ⟨fun {address count bytes} positive => ?_⟩
  show
    (if count = 0 then some []
      else if address.toNat + count ≤ UInt64.size then
        regionBytes? regions address.toNat count
      else none) = some bytes ↔ _
  rw [if_neg (Nat.pos_iff_ne_zero.mp positive)]
  split
  case isTrue fits => rw [regionBytes?_eq_some_iff, and_iff_right fits]
  case isFalse passes => simp [passes]

theorem Pages.length_slice (pages : Pages) (start count : Nat)
    : (pages.slice start count).length = count := by
  rw [slice, List.length_map, List.length_range]

/-- Within a page either all bytes or none can be transferred. -/
theorem Pages.transfer_of_page (pages : Pages) {start count : Nat} (positive : 0 < count)
    (within : start % pageSize + count ≤ pageSize)
    : pages.transfer start count
      = if pages.readable (start / pageSize) then pages.slice start count else [] := by
  have left : count ≤ pageSize - start % pageSize := by omega
  rw [transfer, extent, if_neg (Nat.pos_iff_ne_zero.mp positive)]
  split
  · rw [if_pos left]
  · rfl

/-- The running process has its memory protected by pages, as long as the direct copy is not
refused and nothing is mapped at null.
-/
theorem live_paged {faults : CopyFaults} {pages : Pages} (direct : faults.direct = none)
    (unmapped : pages.readable 0 = false)
    : (live faults pages).Paged pages := by
  refine ⟨fun {address count} positive within => ?_⟩
  show (readLive? faults pages.kernel false address count).1 = _
  have some_bytes : count ≠ 0 := Nat.pos_iff_ne_zero.mp positive
  rw [readLive?]
  split
  case isTrue null =>
    have zero : address.page = 0 := by
      rw [Address.isNull, decide_eq_true_eq] at null
      rw [Address.page, Address.toNat, null]
      rfl
    rw [zero, unmapped]
    rfl
  case isFalse =>
    have fits : address.toNat + count ≤ UInt64.size := by
      have last : address.toNat + (count - 1) < UInt64.size :=
        Address.inside_of_page (by omega)
      omega
    rw [copyLive?, if_neg some_bytes, if_neg Bool.false_ne_true, direct]
    simp only [Pages.kernel, fits, if_true, pages.transfer_of_page positive within, Address.page]
    by_cases readable : pages.readable (address.toNat / pageSize) = true
    · simp only [readable, if_true]
      exact if_pos (pages.length_slice _ _)
    · simp only [readable]
      exact if_neg (Ne.symm some_bytes)

end Memory

end CrashCapture
