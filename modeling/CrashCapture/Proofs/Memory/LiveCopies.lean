import CrashCapture.Proofs.Memory.Contents

/-! Copies of live memory. One copy takes all bytes or none, and so does a copy through a pipe,
which moves a few of them at a time: the pieces can all be read exactly when the whole range
can. What is read is therefore a matter of the pages alone, whichever way was taken.
-/

namespace CrashCapture.Memory

variable {pages : Pages} {kernel : Kernel} {faults : CopyFaults}
  {start count first rest : Nat}

-----------------------------------------------------------------------------------------
-- Ranges of readable pages
-----------------------------------------------------------------------------------------

/-- Every page that the range touches can be read. -/
def ReadableOver (readable : Nat → Bool) (start count : Nat) : Prop :=
  ∀ offset < count, readable ((start + offset) / pageSize) = true

instance (readable : Nat → Bool) (start count : Nat)
    : Decidable (ReadableOver readable start count) :=
  inferInstanceAs (Decidable (∀ offset, offset < count → _))

theorem readableOver_zero (readable : Nat → Bool) (start : Nat)
    : ReadableOver readable start 0 := fun _ inside => absurd inside (Nat.not_lt_zero _)

theorem ReadableOver.front {readable : Nat → Bool} (covered : ReadableOver readable start count)
    (within : first ≤ count)
    : ReadableOver readable start first :=
  fun offset inside => covered offset (Nat.lt_of_lt_of_le inside within)

/-- A range can be read exactly when its two parts can. -/
theorem readableOver_add {readable : Nat → Bool}
    : ReadableOver readable start (first + rest)
      ↔ ReadableOver readable start first ∧ ReadableOver readable (start + first) rest := by
  constructor
  · intro covered
    refine ⟨covered.front (Nat.le_add_right first rest), fun offset inside => ?_⟩
    rw [Nat.add_assoc]
    exact covered (first + offset) (Nat.add_lt_add_left inside first)
  · rintro ⟨front, back⟩ offset inside
    rcases Nat.lt_or_ge offset first with before | behind
    · exact front offset before
    · have here := back (offset - first) (by omega)
      rwa [Nat.add_assoc, Nat.add_sub_cancel' behind] at here

/-- Of a range within one page there is only that page to read. -/
theorem readableOver_of_page {readable : Nat → Bool} (positive : 0 < count)
    (within : start % pageSize + count ≤ pageSize)
    : ReadableOver readable start count ↔ readable (start / pageSize) = true := by
  have same (offset : Nat) (inside : offset < count)
      : (start + offset) / pageSize = start / pageSize := by
    simp only [pageSize] at *
    omega
  constructor
  · intro covered
    exact covered 0 positive
  · intro here offset inside
    rwa [same offset inside]

theorem Pages.extent_le (pages : Pages) (start count : Nat)
    : pages.extent start count ≤ count := by
  fun_induction extent pages start count with
  | case1 => exact Nat.zero_le _
  | case2 => exact Nat.le_refl _
  | case3 start count some_left readable left beyond ih => omega
  | case4 => exact Nat.zero_le _

/-- The longest readable stretch is all of a range exactly when its pages can be read, by
induction on the pages.
-/
theorem Pages.extent_eq_iff (pages : Pages) (start count : Nat)
    : pages.extent start count = count ↔ ReadableOver pages.readable start count := by
  fun_induction extent pages start count with
  | case1 start => exact iff_of_true rfl (readableOver_zero _ _)
  | case2 start count some_left readable left within =>
      have inPage : start % pageSize + count ≤ pageSize := by
        have := Nat.mod_lt start (by decide : 0 < pageSize)
        omega
      exact iff_of_true rfl
        ((readableOver_of_page (Nat.pos_iff_ne_zero.mpr some_left) inPage).mpr readable)
  | case3 start count some_left readable left beyond ih =>
      have inPage : start % pageSize + left = pageSize :=
        Nat.add_sub_cancel' (Nat.le_of_lt (Nat.mod_lt _ (by decide)))
      have some_bytes : 0 < left := Nat.sub_pos_of_lt (Nat.mod_lt _ (by decide))
      have front : ReadableOver pages.readable start left :=
        (readableOver_of_page some_bytes (Nat.le_of_eq inPage)).mpr readable
      have split : count = left + (count - left) := by omega
      rw [split, readableOver_add, and_iff_right front, Nat.add_sub_cancel_left, ← ih]
      omega
  | case4 start count some_left unreadable =>
      refine iff_of_false (Ne.symm some_left) fun covered => ?_
      exact unreadable (covered 0 (Nat.pos_iff_ne_zero.mpr some_left))

/-- Nothing can be read in the page of the null address, nor beyond the address space. -/
structure Pages.Guarded (pages : Pages) : Prop where
  null : pages.readable 0 = false
  beyond : ∀ page, UInt64.size / pageSize ≤ page → pages.readable page = false

/-- A readable range ends with the address space at the latest. -/
theorem Pages.Guarded.inside (guarded : pages.Guarded) (positive : 0 < count)
    (covered : ReadableOver pages.readable start count)
    : start + count ≤ UInt64.size := by
  refine Nat.le_of_not_lt fun passes => ?_
  have last : UInt64.size ≤ start + (count - 1) := by omega
  have unreadable := guarded.beyond _ (Nat.div_le_div_right last)
  rw [covered (count - 1) (Nat.sub_lt positive Nat.one_pos)] at unreadable
  exact Bool.false_ne_true unreadable.symm

-----------------------------------------------------------------------------------------
-- What a range holds
-----------------------------------------------------------------------------------------

/-- All bytes of a range, when each of its pages can be read. -/
def Pages.contents? (pages : Pages) (start count : Nat) : Option (List UInt8) :=
  if ReadableOver pages.readable start count then some (pages.slice start count) else none

theorem Pages.contents?_eq_some_iff {bytes : List UInt8}
    : pages.contents? start count = some bytes
      ↔ ReadableOver pages.readable start count ∧ pages.slice start count = bytes := by
  rw [contents?]
  split
  case isTrue covered => simp [covered]
  case isFalse uncovered => simp [uncovered]

theorem Pages.slice_add (pages : Pages) (start first rest : Nat)
    : pages.slice start (first + rest)
      = pages.slice start first ++ pages.slice (start + first) rest := by
  simp only [slice, List.range_add, List.map_append, List.map_map, Function.comp_def,
    Nat.add_assoc]

theorem Pages.contents?_zero (pages : Pages) (start : Nat)
    : pages.contents? start 0 = some [] := if_pos (readableOver_zero _ _)

/-- What a range holds is what its two parts hold. -/
theorem Pages.contents?_add (pages : Pages) (start first rest : Nat)
    : pages.contents? start (first + rest)
      = (pages.contents? start first).bind fun front =>
        (pages.contents? (start + first) rest).map (front ++ ·) := by
  unfold contents?
  by_cases front : ReadableOver pages.readable start first
  · by_cases back : ReadableOver pages.readable (start + first) rest
    · rw [if_pos (readableOver_add.mpr ⟨front, back⟩), if_pos front, if_pos back, slice_add]
      rfl
    · rw [if_neg fun covered => back (readableOver_add.mp covered).2, if_pos front, if_neg back]
      rfl
  · rw [if_neg fun covered => front (readableOver_add.mp covered).1, if_neg front]
    rfl

/-- At null nothing can be read. -/
theorem Pages.Guarded.contents?_null (guarded : pages.Guarded) (positive : 0 < count)
    : pages.contents? 0 count = none := by
  refine if_neg fun covered => ?_
  have first : pages.readable 0 = true := covered 0 positive
  rw [guarded.null] at first
  exact Bool.false_ne_true first

/-- A range that starts at the end of the address space holds as little as one at null. -/
theorem Pages.Guarded.contents?_wrapped (guarded : pages.Guarded)
    (inside : start ≤ UInt64.size)
    : pages.contents? (start % UInt64.size) count = pages.contents? start count := by
  rcases Nat.lt_or_eq_of_le inside with before | rfl
  · rw [Nat.mod_eq_of_lt before]
  · rcases Nat.eq_zero_or_pos count with rfl | positive
    · rw [pages.contents?_zero, pages.contents?_zero]
    · rw [Nat.mod_self, guarded.contents?_null positive]
      exact (if_neg fun covered => absurd (guarded.inside positive covered) (by omega)).symm

-----------------------------------------------------------------------------------------
-- One transfer, and a copy in pieces
-----------------------------------------------------------------------------------------

/-- What may be moved of a range: at most the longest readable stretch at its start, and all
of the range when that can be read.
-/
structure Pages.MayMove (pages : Pages) (start count : Nat) (moved : List UInt8) : Prop where
  front : moved <+: pages.transfer start count
  whole : ReadableOver pages.readable start count → moved.length = count

/-- A kernel that knows the pages. An empty pipe takes at once what it has room for. -/
structure Kernel.Obeys (kernel : Kernel) (pages : Pages) : Prop where
  direct : ∀ start count, pages.MayMove start count (kernel.direct start count)
  toPipe
    : ∀ start count,
        count ≤ pipePiece → pages.MayMove start count (kernel.toPipe start count)

theorem Pages.length_transfer (pages : Pages) (start count : Nat)
    : (pages.transfer start count).length = pages.extent start count :=
  pages.length_slice _ _

/-- Of a range that can be read all is transferred. -/
theorem Pages.transfer_eq (covered : ReadableOver pages.readable start count)
    : pages.transfer start count = pages.slice start count := by
  rw [transfer, (pages.extent_eq_iff start count).mpr covered]

/-- A transfer is complete exactly when the range can be read, and then it has its bytes. -/
theorem Pages.MayMove.complete?_eq {moved : List UInt8} (may : pages.MayMove start count moved)
    : complete? count moved = pages.contents? start count := by
  unfold complete? contents?
  by_cases covered : ReadableOver pages.readable start count
  · have same : moved = pages.slice start count := by
      rw [← transfer_eq covered]
      refine may.front.eq_of_length ?_
      rw [may.whole covered, transfer_eq covered, length_slice]
    rw [if_pos (may.whole covered), if_pos covered, same]
  · have fewer : pages.extent start count ≠ count := fun full =>
      covered ((pages.extent_eq_iff start count).mp full)
    have most := may.front.length_le
    have stretch := pages.extent_le start count
    rw [pages.length_transfer] at most
    rw [if_neg (by omega), if_neg covered]

/-- The kernel that moves all it can is one of those. -/
theorem Pages.Guarded.kernel_obeys (guarded : pages.Guarded) : pages.kernel.Obeys pages := by
  have all (start count : Nat) (covered : ReadableOver pages.readable start count)
      : (pages.transfer start count).length = count := by
    rw [Pages.transfer_eq covered, pages.length_slice]
  constructor
  case direct =>
    intro start count
    show pages.MayMove start count
      (if start + count ≤ UInt64.size then pages.transfer start count else [])
    split
    case isTrue => exact ⟨List.prefix_rfl, all start count⟩
    case isFalse passes =>
      refine ⟨List.nil_prefix, fun covered => ?_⟩
      rcases Nat.eq_zero_or_pos count with rfl | positive
      · rfl
      · exact absurd (guarded.inside positive covered) passes
  case toPipe => exact fun start count _ => ⟨List.prefix_rfl, all start count⟩

/-- A copy in pieces comes to what the whole range holds, by induction on the bytes that are
left. The next piece may start at the end of the address space, which wraps to null.
-/
theorem throughPipe?_eq (guarded : pages.Guarded) (obeys : kernel.Obeys pages)
    (reads : faults.pipeRead = false) (start count : Nat)
    : throughPipe? faults kernel start count = pages.contents? start count := by
  fun_induction throughPipe? faults kernel start count with
  | case1 start => exact (pages.contents?_zero start).symm
  | case2 start count some_left piece broken =>
      have split : piece + (count - piece) = count := Nat.add_sub_cancel' (Nat.min_le_left _ _)
      rw [(obeys.toPipe start piece (Nat.min_le_right _ _)).complete?_eq] at broken
      rw [← split, pages.contents?_add, broken]
      rfl
  | case3 start count some_left piece bytes moved refused =>
      rw [reads] at refused
      cases refused
  | case4 start count some_left piece bytes moved _ ih =>
      have split : piece + (count - piece) = count := Nat.add_sub_cancel' (Nat.min_le_left _ _)
      rw [(obeys.toPipe start piece (Nat.min_le_right _ _)).complete?_eq] at moved
      have positive : 0 < piece :=
        Nat.lt_min.mpr ⟨Nat.pos_iff_ne_zero.mpr some_left, by decide⟩
      have inside : start + piece ≤ UInt64.size :=
        guarded.inside positive (Pages.contents?_eq_some_iff.mp moved).1
      rw [ih, guarded.contents?_wrapped inside, ← split, pages.contents?_add, moved,
        Nat.add_sub_cancel_left]
      rfl

theorem copyThroughPipe?_eq (guarded : pages.Guarded) (obeys : kernel.Obeys pages)
    (opens : faults.pipeOpen = false) (reads : faults.pipeRead = false) (start count : Nat)
    : copyThroughPipe? faults kernel start count = pages.contents? start count := by
  rw [copyThroughPipe?, opens, if_neg Bool.false_ne_true, throughPipe?_eq guarded obeys reads]

-----------------------------------------------------------------------------------------
-- Reads of live memory
-----------------------------------------------------------------------------------------

/-- The system calls behind a copy as they should be: pipes can be opened and read, and the
direct copy is refused only where it is unavailable.
-/
structure CopyFaults.Mild (faults : CopyFaults) : Prop where
  pipeOpen : faults.pipeOpen = false
  pipeRead : faults.pipeRead = false
  direct : ∀ errno, faults.direct = some errno → directUnavailable errno = true

theorem copyLive?_zero (faults : CopyFaults) (kernel : Kernel) (pipeOnly : Bool)
    (start : Nat)
    : (copyLive? faults kernel pipeOnly start 0).1 = some [] := by
  rw [copyLive?, if_pos rfl]

/-- A direct copy that is not refused gives what the range holds. -/
theorem copyLive?_direct (obeys : kernel.Obeys pages) (direct : faults.direct = none)
    (start count : Nat)
    : (copyLive? faults kernel false start count).1 = pages.contents? start count := by
  rcases Nat.eq_zero_or_pos count with rfl | positive
  · rw [copyLive?_zero, pages.contents?_zero]
  · rw [copyLive?, if_neg (Nat.pos_iff_ne_zero.mp positive), if_neg Bool.false_ne_true, direct]
    exact (obeys.direct start count).complete?_eq

/-- A copy gives what the range holds, whichever way is taken for it. -/
theorem copyLive?_eq (guarded : pages.Guarded) (obeys : kernel.Obeys pages)
    (mild : faults.Mild) (pipeOnly : Bool) (start count : Nat)
    : (copyLive? faults kernel pipeOnly start count).1 = pages.contents? start count := by
  have piped := copyThroughPipe?_eq guarded obeys mild.pipeOpen mild.pipeRead start count
  rcases Nat.eq_zero_or_pos count with rfl | positive
  · rw [copyLive?_zero, pages.contents?_zero]
  · have some_asked := Nat.pos_iff_ne_zero.mp positive
    cases pipeOnly with
    | true =>
        rw [copyLive?, if_neg some_asked, if_pos rfl]
        exact piped
    | false =>
        cases refusal : faults.direct with
        | none => exact copyLive?_direct obeys refusal start count
        | some errno =>
            rw [copyLive?, if_neg some_asked, if_neg Bool.false_ne_true, refusal]
            dsimp only
            rw [if_pos (mild.direct errno refusal)]
            exact piped

/-- A read gives what the range holds. At null nothing is held. -/
theorem readLive?_eq (guarded : pages.Guarded) (obeys : kernel.Obeys pages)
    (mild : faults.Mild) (pipeOnly : Bool) (address : Address) (count : Nat)
    : (readLive? faults kernel pipeOnly address count).1
      = pages.contents? address.toNat count := by
  unfold readLive?
  split
  case isTrue null =>
    have zero : address.toNat = 0 := by
      rw [Address.isNull, decide_eq_true_eq] at null
      rw [Address.toNat, null]
      rfl
    rw [zero]
    split
    case isTrue none_asked =>
      rw [none_asked]
      exact (pages.contents?_zero 0).symm
    case isFalse some_asked =>
      exact (guarded.contents?_null (Nat.pos_iff_ne_zero.mpr some_asked)).symm
  case isFalse => exact copyLive?_eq guarded obeys mild pipeOnly address.toNat count

/-- A range holds some bytes just if it lies in the address space and each of them can be read
where it stands.
-/
theorem Pages.Guarded.contents?_eq_some_iff_holds (guarded : pages.Guarded)
    (positive : 0 < count) {bytes : List UInt8}
    : pages.contents? start count = some bytes
      ↔ start + count ≤ UInt64.size ∧ bytes.length = count
        ∧ Holds pages.byte? start bytes := by
  rw [Pages.contents?_eq_some_iff]
  constructor
  · rintro ⟨covered, rfl⟩
    refine ⟨guarded.inside positive covered, pages.length_slice _ _, fun offset inside => ?_⟩
    rw [pages.length_slice] at inside
    rw [Pages.byte?, if_pos (covered offset inside), Pages.slice, List.getElem?_map,
      List.getElem?_range inside]
    rfl
  · rintro ⟨_, rfl, holds⟩
    have there (offset : Nat) (inside : offset < bytes.length) :=
      Pages.byte?_eq_some_iff.mp ((holds offset inside).trans (List.getElem?_eq_getElem inside))
    refine ⟨fun offset inside => (there offset inside).1,
      List.ext_getElem (pages.length_slice _ _) fun offset _ inside => ?_⟩
    simp only [Pages.slice, List.getElem_map, List.getElem_range, (there offset inside).2]

/-- The running process decides for each byte whether it can be read, as long as its pages and
the system calls behind a copy are as they should be.
-/
theorem live_bytewise (guarded : pages.Guarded) (mild : faults.Mild)
    : (live faults pages).Bytewise pages.byte? where
  read?_eq_some_iff {address count bytes} positive := by
    have read
        : (live faults pages).read? address count = pages.contents? address.toNat count :=
      readLive?_eq guarded guarded.kernel_obeys mild false address count
    rw [read, guarded.contents?_eq_some_iff_holds positive]

/-- One read of live memory: what is asked for, how the kernel moves bytes and what it refuses
at that moment, and whether another thread has found the direct copy unavailable by then.
-/
structure LiveRead where
  address : Address
  count : Nat
  kernel : Kernel
  faults : CopyFaults
  foundElsewhere : Bool

/-- The answers of reads, one after the other. Once the direct copy was found to be unavailable
it is not tried again.
-/
def LiveRead.answers : (pipeOnly : Bool) → List LiveRead → List (Option (List UInt8))
  | _, [] => []
  | pipeOnly, read :: rest =>
    let known := pipeOnly || read.foundElsewhere
    let (answer, after) := readLive? read.faults read.kernel known read.address read.count
    answer :: answers after rest

/-- Each read gives what its range holds, by induction on the reads. -/
theorem LiveRead.answers_eq (guarded : pages.Guarded) {reads : List LiveRead}
    (obeys : ∀ read ∈ reads, read.kernel.Obeys pages)
    (mild : ∀ read ∈ reads, read.faults.Mild) (pipeOnly : Bool)
    : answers pipeOnly reads
      = reads.map fun read => pages.contents? read.address.toNat read.count := by
  induction reads generalizing pipeOnly with
  | nil => rfl
  | cons read rest ih =>
      have later := ih (fun other member => obeys other (List.mem_cons_of_mem _ member))
        (fun other member => mild other (List.mem_cons_of_mem _ member))
      have first := readLive?_eq guarded (obeys read List.mem_cons_self)
        (mild read List.mem_cons_self) (pipeOnly || read.foundElsewhere) read.address read.count
      rw [List.map_cons, ← first, ← later]
      rfl

/-- A copy through a pipe succeeds exactly when a direct one does, and with the same bytes, for
every range and however the kernel moves them, as long as it moves whole what can be read. So
in a run of reads, however the direct copy is refused in it and whenever that was found out,
each read gives what its range holds.
-/
theorem pipe_agrees_with_direct_copy (guarded : pages.Guarded)
    : (∀ (kernel other : Kernel) (faults refused : CopyFaults),
        kernel.Obeys pages
        → other.Obeys pages
        → faults.pipeOpen = false
        → faults.pipeRead = false
        → refused.direct = none
        → ∀ (address : Address) count,
            copyThroughPipe? faults kernel address.toNat count
              = (copyLive? refused other false address.toNat count).1
            ∧ copyThroughPipe? faults kernel address.toNat count
              = pages.contents? address.toNat count)
      ∧ ∀ pipeOnly (reads : List LiveRead),
          (∀ read ∈ reads, read.kernel.Obeys pages)
          → (∀ read ∈ reads, read.faults.Mild)
          → LiveRead.answers pipeOnly reads
            = reads.map fun read => pages.contents? read.address.toNat read.count := by
  constructor
  · intro kernel other faults refused obeys otherObeys opens reads direct address count
    have piped := copyThroughPipe?_eq guarded obeys opens reads address.toNat count
    exact ⟨piped.trans (copyLive?_direct otherObeys direct address.toNat count).symm, piped⟩
  · intro pipeOnly reads obeys mild
    exact LiveRead.answers_eq guarded obeys mild pipeOnly

/-- Two pages between others that cannot be read. -/
def twoPages : Pages where
  readable page := page = 8 ∨ page = 9
  byte position := UInt8.ofNat position

theorem twoPages_guarded : twoPages.Guarded where
  null := rfl
  beyond page far := by
    have small : ¬(page = 8 ∨ page = 9) := by
      have := (by decide : 10 < UInt64.size / pageSize)
      omega
    exact decide_eq_false small

theorem readableOver_twoPages (after : 0x8000 ≤ start) (before : start + count ≤ 0xA000)
    : ReadableOver twoPages.readable start count := by
  intro offset inside
  have place : (start + offset) / pageSize = 8 ∨ (start + offset) / pageSize = 9 := by
    simp only [pageSize]
    omega
  exact decide_eq_true place

/-- A kernel whose pipes take nothing of a piece when they cannot take all of it. -/
def stingyKernel (pages : Pages) : Kernel where
  direct := pages.kernel.direct
  toPipe start count := (pages.contents? start count).getD []

theorem stingyKernel_obeys (guarded : pages.Guarded) : (stingyKernel pages).Obeys pages where
  direct := guarded.kernel_obeys.direct
  toPipe start count _ := by
    show pages.MayMove start count ((pages.contents? start count).getD [])
    cases held : pages.contents? start count with
    | none =>
        refine ⟨List.nil_prefix, fun covered => ?_⟩
        rw [Pages.contents?, if_pos covered] at held
        cases held
    | some bytes =>
        obtain ⟨covered, rfl⟩ := Pages.contents?_eq_some_iff.mp held
        refine ⟨?_, fun _ => pages.length_slice _ _⟩
        rw [Pages.transfer_eq covered]
        exact List.prefix_rfl

/-- From the middle of the first page to the end of the second one all can be read, in one
piece and in two, before and after the direct copy was found to be unavailable. One byte more
can be read in neither way.
-/
theorem pipe_agrees_with_direct_copy_of_two_pages
    : let read (count : Nat) (direct : Option Errno) : LiveRead := {
        address := ⟨0x8800⟩
        count := count
        kernel := stingyKernel twoPages
        faults := { direct := direct }
        foundElsewhere := false
      }
      twoPages.Guarded
      ∧ (copyThroughPipe? {} (stingyKernel twoPages) 0x8800 0x1800).isSome = true
      ∧ copyThroughPipe? {} (stingyKernel twoPages) 0x8800 0x1801 = none
      ∧ (LiveRead.answers false
          [read 0x1800 none, read 0x1800 (some .notPermitted), read 0x1801 none]).map
          Option.isSome
        = [true, true, false] := by
  intro read
  have obeys := stingyKernel_obeys twoPages_guarded
  have holds : (twoPages.contents? 0x8800 0x1800).isSome = true := by
    rw [Pages.contents?, if_pos (readableOver_twoPages (by decide) (by decide))]
    rfl
  have ends : twoPages.contents? 0x8800 0x1801 = none :=
    if_neg fun covered => absurd (covered 0x1800 (by decide)) (by decide)
  have agrees := pipe_agrees_with_direct_copy twoPages_guarded
  have copied (count : Nat)
      : copyThroughPipe? {} (stingyKernel twoPages) 0x8800 count
        = twoPages.contents? 0x8800 count :=
    (agrees.1 _ _ {} {} obeys obeys rfl rfl rfl ⟨0x8800⟩ count).2
  have unavailable (errno : Errno) (refused : some Errno.notPermitted = some errno)
      : directUnavailable errno = true := by
    cases refused
    rfl
  have answered := agrees.2 false
    [read 0x1800 none, read 0x1800 (some .notPermitted), read 0x1801 none]
    (by simp [read, obeys])
    (by
      intro asked among
      simp only [List.mem_cons, List.not_mem_nil, or_false] at among
      rcases among with rfl | rfl | rfl
      · exact ⟨rfl, rfl, nofun⟩
      · exact ⟨rfl, rfl, unavailable⟩
      · exact ⟨rfl, rfl, nofun⟩)
  refine ⟨twoPages_guarded, ?_, ?_, ?_⟩
  · rw [copied, holds]
  · rw [copied, ends]
  · rw [answered]
    show
      [(twoPages.contents? 0x8800 0x1800).isSome, (twoPages.contents? 0x8800 0x1800).isSome,
        (twoPages.contents? 0x8800 0x1801).isSome]
        = [true, true, false]
    rw [holds, ends]
    rfl

end CrashCapture.Memory
