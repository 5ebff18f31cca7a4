import Mathlib.Order.Bounds.Basic
import CrashCapture.Proofs.Memory.LiveCopies

/-! How much of a range can be read. One function probes a whole range piece by piece, the other
tries one byte of every page. Where readability is decided for each page they agree, up to the
last page of the address space.
-/

namespace CrashCapture.Memory

variable {memory : Memory} {readable : Nat → Bool} {address : Address}
  {start count next stop page : Nat}

/-- Readability is decided for each page: some bytes that do not pass the end of the address
space can be read exactly when every page they touch can.
-/
structure Pagewise (memory : Memory) (readable : Nat → Bool) : Prop where
  isSome_read?_iff
    : ∀ {address count},
        0 < count
        → address.toNat + count ≤ UInt64.size
        → ((memory.read? address count).isSome = true
          ↔ ReadableOver readable address.toNat count)

/-- The memory of a process is read page by page, whichever way its copies take. -/
theorem live_pagewise {faults : CopyFaults} {pages : Pages} (mild : faults.Mild)
    (guarded : pages.Guarded)
    : (live faults pages).Pagewise pages.readable := by
  refine ⟨fun {address count} _ _ => ?_⟩
  show (readLive? faults pages.kernel false address count).1.isSome = true ↔ _
  rw [readLive?_eq guarded guarded.kernel_obeys mild, Pages.contents?]
  split
  case isTrue covered => exact iff_of_true rfl covered
  case isFalse uncovered => exact iff_of_false Bool.false_ne_true uncovered

-----------------------------------------------------------------------------------------
-- Whole ranges
-----------------------------------------------------------------------------------------

/-- The pieces of a range can all be read exactly when its pages can, by induction on the
bytes that are left. Behind the last piece nothing is left, so that the address may wrap there.
-/
theorem Pagewise.isReadable_iff (pagewise : memory.Pagewise readable)
    (fits : address.toNat + count ≤ UInt64.size)
    : memory.isReadable address count = true ↔ ReadableOver readable address.toNat count := by
  fun_induction isReadable memory address count with
  | case1 address => exact iff_of_true rfl (readableOver_zero _ _)
  | case2 address count some_left piece ih =>
      have positive : 0 < piece :=
        Nat.lt_min.mpr ⟨Nat.pos_iff_ne_zero.mpr some_left, by decide⟩
      have within : piece ≤ count := Nat.min_le_left _ _
      have split : piece + (count - piece) = count := Nat.add_sub_cancel' within
      have rest : isReadable memory (address.advance piece) (count - piece) = true
          ↔ ReadableOver readable (address.toNat + piece) (count - piece) := by
        rcases Nat.eq_zero_or_pos (count - piece) with done | more
        · rw [done, isReadable, if_pos rfl]
          exact iff_of_true rfl (readableOver_zero _ _)
        · have inside : address.toNat + piece < UInt64.size := by omega
          rw [← Address.toNat_advance inside]
          refine ih ?_
          rw [Address.toNat_advance inside]
          omega
      rw [Bool.and_eq_true, rest, pagewise.isSome_read?_iff positive (by omega),
        ← readableOver_add, split]

-----------------------------------------------------------------------------------------
-- The first page that cannot be read
-----------------------------------------------------------------------------------------

/-- One byte of a page tells whether the page can be read. -/
theorem Pagewise.hasByte_eq (pagewise : memory.Pagewise readable)
    : memory.hasByte address = readable address.page := by
  rw [Bool.eq_iff_iff, hasByte, pagewise.isSome_read?_iff Nat.one_pos address.value.toNat_lt]
  exact ⟨fun covered => covered 0 Nat.one_pos, fun here offset inside => by
    obtain rfl : offset = 0 := by omega
    exact here⟩

/-- The end of the page that a position lies in. -/
def pageEnd (position : Nat) : Nat := (position / pageSize + 1) * pageSize

theorem mod_pageEnd (position : Nat) : pageEnd position % pageSize = 0 := Nat.mul_mod_left _ _

theorem lt_pageEnd (position : Nat) : position < pageEnd position := by
  simp only [pageEnd, pageSize]
  omega

/-- A page that can be read can be read up to its end. -/
theorem readableOver_pageEnd (here : readable (start / pageSize) = true)
    : ReadableOver readable start (pageEnd start - start) := by
  refine (readableOver_of_page (Nat.sub_pos_of_lt (lt_pageEnd start)) ?_).mpr here
  simp only [pageEnd, pageSize]
  omega

/-- The search goes over pages that can be read, up to the first one that cannot or to the
stop, by induction on the pages.
-/
theorem Pagewise.firstUnreadablePage?_spec (pagewise : memory.Pagewise readable)
    (aligned : next % pageSize = 0) (inside : stop < UInt64.size)
    : match memory.firstUnreadablePage? next stop with
      | some page =>
        next ≤ page ∧ page < stop ∧ readable (page / pageSize) = false
          ∧ ReadableOver readable next (page - next)
      | none => ReadableOver readable next (stop - next) := by
  have tried (next : Nat) (before : next < stop)
      : memory.hasByte (Address.ofNat next) = readable (next / pageSize) := by
    have place : (Address.ofNat next).toNat = next :=
      UInt64.toNat_ofNat_of_lt' (Nat.lt_trans before inside)
    rw [pagewise.hasByte_eq, Address.page, place]
  have page (next : Nat) (aligned : next % pageSize = 0)
      (here : readable (next / pageSize) = true)
      : ReadableOver readable next pageSize :=
    (readableOver_of_page (by decide) (by omega)).mpr here
  fun_induction firstUnreadablePage? memory next stop with
  | case1 next before found ih =>
      rw [tried next before] at found
      have here := page next aligned found
      have later := ih (by rw [Nat.add_mod_right, aligned])
      cases search : memory.firstUnreadablePage? (next + pageSize) stop with
      | some page =>
          rw [search] at later
          obtain ⟨behind, reached, unreadable, covered⟩ := later
          refine ⟨by omega, reached, unreadable, ?_⟩
          have split : page - next = pageSize + (page - (next + pageSize)) := by omega
          rw [split]
          exact readableOver_add.mpr ⟨here, covered⟩
      | none =>
          rw [search] at later
          refine (readableOver_add.mpr ⟨here, later⟩).front ?_
          omega
  | case2 next before missing =>
      rw [tried next before, Bool.not_eq_true] at missing
      refine ⟨Nat.le_refl next, before, missing, ?_⟩
      rw [Nat.sub_self]
      exact readableOver_zero _ _
  | case3 next past =>
      have none_left : stop - next = 0 := by omega
      rw [none_left]
      exact readableOver_zero _ _

/-- The last position of the address space, which a saturated stop leaves out, lies in the page
of the one before it.
-/
theorem readableOver_of_saturated (fits : start + count ≤ UInt64.size)
    (front : ReadableOver readable start (pageEnd start - start))
    (back
      : ReadableOver readable (pageEnd start)
          (min (start + count) (UInt64.size - 1) - pageEnd start))
    : ReadableOver readable start count := by
  have aligned := mod_pageEnd start
  have size : UInt64.size = 2 ^ 64 := rfl
  intro offset inside
  rcases Nat.lt_or_ge (start + offset) (pageEnd start) with before | behind
  · exact front offset (by omega)
  · rcases Nat.lt_or_ge (start + offset) (UInt64.size - 1) with below | last
    · have here := back (start + offset - pageEnd start) (by omega)
      rwa [Nat.add_sub_cancel' behind] at here
    · have place : start + offset = 2 ^ 64 - 1 := by omega
      obtain ⟨reached, samePage⟩
          : pageEnd start ≤ start + offset - 1
            ∧ (start + offset - 1) / pageSize = (start + offset) / pageSize := by
        simp only [pageSize] at aligned ⊢
        omega
      have here := back (start + offset - 1 - pageEnd start) (by omega)
      rwa [Nat.add_sub_cancel' reached, samePage] at here

/-- What can be read from the address on is a front of the range, and stops within it only at a
page that cannot be read.
-/
theorem Pagewise.readableExtent_spec (pagewise : memory.Pagewise readable)
    (fits : address.toNat + count ≤ UInt64.size)
    : memory.readableExtent address count ≤ count
      ∧ ReadableOver readable address.toNat (memory.readableExtent address count)
      ∧ (memory.readableExtent address count < count
        → readable ((address.toNat + memory.readableExtent address count) / pageSize)
          = false) := by
  rw [readableExtent, pagewise.hasByte_eq]
  split
  case isTrue nothing =>
    refine ⟨Nat.zero_le count, readableOver_zero _ _, fun some_asked => ?_⟩
    simpa [Nat.pos_iff_ne_zero.mp some_asked, Address.page] using nothing
  case isFalse something =>
    have here : readable (address.toNat / pageSize) = true := by
      simp only [Bool.or_eq_true, not_or, Bool.not_eq_true', Bool.not_eq_false] at something
      exact something.2
    have front := readableOver_pageEnd here
    have beyond := lt_pageEnd address.toNat
    have search := pagewise.firstUnreadablePage?_spec (mod_pageEnd address.toNat)
      (Nat.lt_of_le_of_lt (Nat.min_le_right (address.toNat + count) (UInt64.size - 1))
        (by decide))
    dsimp only
    rw [← pageEnd]
    split
    case h_1 page found =>
      rw [found] at search
      obtain ⟨behind, reached, unreadable, covered⟩ := search
      have split : page - address.toNat
          = (pageEnd address.toNat - address.toNat) + (page - pageEnd address.toNat) := by omega
      refine ⟨by omega, ?_, fun _ => ?_⟩
      · rw [split, readableOver_add, Nat.add_sub_cancel' (Nat.le_of_lt beyond)]
        exact ⟨front, covered⟩
      · rwa [Nat.add_sub_cancel' (by omega)]
    case h_2 found =>
      rw [found] at search
      exact ⟨Nat.le_refl count, readableOver_of_saturated fits front search,
        fun fewer => absurd fewer (Nat.lt_irrefl count)⟩

/-- Where readability is decided for each page, a range can be read when all pages that it
touches can, and the bytes that are said to be readable are as many as can be.
-/
theorem readableExtent_greatest (pagewise : memory.Pagewise readable)
    (fits : address.toNat + count ≤ UInt64.size)
    : (memory.isReadable address count = true
        ↔ count = 0 ∨ ReadableOver readable address.toNat count)
      ∧ IsGreatest {extent | extent ≤ count ∧ memory.isReadable address extent = true}
          (memory.readableExtent address count) := by
  have probed {extent : Nat} (within : extent ≤ count)
      : memory.isReadable address extent = true
        ↔ ReadableOver readable address.toNat extent :=
    pagewise.isReadable_iff (by omega)
  obtain ⟨within, covered, ends⟩ := pagewise.readableExtent_spec fits
  refine ⟨?_, ⟨within, (probed within).mpr covered⟩, ?_⟩
  · rw [probed (Nat.le_refl count)]
    constructor
    · exact .inr
    · rintro (rfl | covered)
      · exact readableOver_zero _ _
      · exact covered
  · rintro extent ⟨asked, readable⟩
    refine Nat.le_of_not_lt fun longer => ?_
    have beyond := (probed asked).mp readable _ longer
    rw [ends (by omega)] at beyond
    exact Bool.false_ne_true beyond

/-- The last two pages of the address space. -/
def topPages : Pages where
  readable page := page = 0xFFFFFFFFFFFFE ∨ page = 0xFFFFFFFFFFFFF
  byte _ := 0

theorem topPages_guarded : topPages.Guarded where
  null := rfl
  beyond page far := by
    have size : UInt64.size / pageSize = 0x10000000000000 := by decide
    exact decide_eq_false (by omega)

/-- From the middle of the last page but one all can be read up to the end of the address space,
and from the middle of one page up to the end of the next one, behind which nothing can be.
-/
theorem readableExtent_greatest_of_two_pages
    : (live {} topPages).Pagewise topPages.readable
      ∧ (live {} topPages).isReadable ⟨0xFFFFFFFFFFFFE00A⟩ 0x1FF6 = true
      ∧ (live {} topPages).readableExtent ⟨0xFFFFFFFFFFFFE00A⟩ 0x1FF6 = 0x1FF6
      ∧ (live {} twoPages).Pagewise twoPages.readable
      ∧ (live {} twoPages).isReadable ⟨0x8FF6⟩ 0x100B = false
      ∧ (live {} twoPages).readableExtent ⟨0x8FF6⟩ 0x2000 = 0x100A := by
  have mild : ({} : CopyFaults).Mild := ⟨rfl, rfl, nofun⟩
  have top := live_pagewise mild topPages_guarded
  have two := live_pagewise mild twoPages_guarded
  have whole : (live {} topPages).isReadable ⟨0xFFFFFFFFFFFFE00A⟩ 0x1FF6 = true := by
    refine (readableExtent_greatest top (by decide)).1.mpr (.inr fun offset inside => ?_)
    have place : (0xFFFFFFFFFFFFE00A + offset) / pageSize = 0xFFFFFFFFFFFFE
        ∨ (0xFFFFFFFFFFFFE00A + offset) / pageSize = 0xFFFFFFFFFFFFF := by
      simp only [pageSize]
      omega
    exact decide_eq_true place
  have front : (live {} twoPages).isReadable ⟨0x8FF6⟩ 0x100A = true :=
    (readableExtent_greatest two (by decide)).1.mpr
      (.inr (readableOver_twoPages (by decide) (by decide)))
  have beyond {count : Nat} (within : count ≤ 0x2000) (longer : 0x100A < count)
      : (live {} twoPages).isReadable ⟨0x8FF6⟩ count = false := by
    have fits : (⟨0x8FF6⟩ : Address).toNat + count ≤ UInt64.size :=
      Nat.le_trans (Nat.add_le_add_left within _) (by decide)
    rw [Bool.eq_false_iff, Ne, (readableExtent_greatest two fits).1]
    rintro (none_asked | covered)
    · omega
    · exact absurd (covered 0x100A longer) (by decide)
  refine ⟨top, whole, ?_, two, beyond (by decide) (by decide), ?_⟩
  · have most : IsGreatest _ ((live {} topPages).readableExtent ⟨0xFFFFFFFFFFFFE00A⟩ 0x1FF6) :=
      (readableExtent_greatest top (by decide)).2
    exact most.unique ⟨⟨Nat.le_refl _, whole⟩, fun count inside => inside.1⟩
  · have most : IsGreatest _ ((live {} twoPages).readableExtent ⟨0x8FF6⟩ 0x2000) :=
      (readableExtent_greatest two (by decide)).2
    refine most.unique ⟨⟨by decide, front⟩, ?_⟩
    rintro count ⟨within, readable⟩
    refine Nat.le_of_not_lt fun longer => ?_
    rw [beyond within longer] at readable
    cases readable

end CrashCapture.Memory
