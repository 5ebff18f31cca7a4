import CrashCapture.Image.StoredText
import CrashCapture.Proofs.Memory.Checked
import CrashCapture.Proofs.Memory.Contents

/-! The search for the end of a text. Reads are cut into chunks, at the ends of pages and at the
limit; what is found is nevertheless a matter of the bytes alone: the first zero, when it comes
before the limit and all pages up to it can be read.
-/

namespace CrashCapture.Memory.Pages

/-- The first zero from the address on stands so many bytes behind it, whether it can be read
or not.
-/
structure FirstZero (pages : Pages) (address : Address) (length : Nat) : Prop where
  before : ∀ offset < length, pages.byte (address.advance offset).toNat ≠ 0
  zero : pages.byte (address.advance length).toNat = 0

/-- Every page can be read, from the one with the address to the one with the byte that stands
`length` bytes behind it.
-/
def ReadableThrough (pages : Pages) (address : Address) (length : Nat) : Prop :=
  ∀ offset ≤ length, pages.readable (address.advance offset).page = true

theorem FirstZero.unique {pages : Pages} {address : Address} {first second : Nat}
    (left : pages.FirstZero address first) (right : pages.FirstZero address second)
    : first = second := by
  rcases Nat.lt_trichotomy first second with shorter | same | longer
  · exact absurd left.zero (right.before first shorter)
  · exact same
  · exact absurd right.zero (left.before second longer)

end CrashCapture.Memory.Pages

namespace CrashCapture.Image.StoredText

open Memory (Pages)

variable {memory : Memory} {byte? : Nat → Option UInt8} {pages : Pages}
  {address : Address} {limit offset : Nat}

-----------------------------------------------------------------------------------------
-- Texts that stand in memory
-----------------------------------------------------------------------------------------

/-- From `offset` on, the bytes of the text are there and none of them is zero, and a zero
stands behind the last one. Positions wrap with the address space.
-/
structure StandsFrom (byte? : Nat → Option UInt8) (offset : Nat) (text : StoredText)
    : Prop where
  reached : offset ≤ text.length
  nonzero
    : ∀ place,
        offset ≤ place
        → place < text.length
        → ∃ byte, byte? (text.address.advance place).toNat = some byte ∧ byte ≠ 0
  ended : byte? (text.address.advance text.length).toNat = some 0

/-- The byte at every place of a text, its end included, can be read. -/
theorem StandsFrom.readable {text : StoredText} (stands : text.StandsFrom byte? offset)
    {place : Nat} (behind : offset ≤ place) (within : place ≤ text.length)
    : ∃ byte, byte? (text.address.advance place).toNat = some byte := by
  rcases Nat.lt_or_eq_of_le within with before | rfl
  · obtain ⟨byte, here, _⟩ := stands.nonzero place behind before
    exact ⟨byte, here⟩
  · exact ⟨0, stands.ended⟩

/-- A text ends at its first zero, so there are no two of them from one place on. -/
theorem StandsFrom.unique {first second : StoredText} (left : first.StandsFrom byte? offset)
    (right : second.StandsFrom byte? offset) (same : first.address = second.address)
    : first = second := by
  obtain ⟨start, length⟩ := first
  obtain ⟨_, other⟩ := second
  obtain rfl : start = _ := same
  rcases Nat.lt_trichotomy length other with shorter | rfl | longer
  · obtain ⟨byte, here, nonzero⟩ := right.nonzero length left.reached shorter
    exact absurd (Option.some.inj (here.symm.trans left.ended)) nonzero
  · rfl
  · obtain ⟨byte, here, nonzero⟩ := left.nonzero other right.reached longer
    exact absurd (Option.some.inj (here.symm.trans right.ended)) nonzero

-----------------------------------------------------------------------------------------
-- One chunk
-----------------------------------------------------------------------------------------

/-- A chunk never leaves its page. -/
theorem chunkAt_within_page (start : Address) (left : Nat)
    : start.toNat % Memory.pageSize + chunkAt start left ≤ Memory.pageSize := by
  have inPage : start.toNat % Memory.pageSize < Memory.pageSize := Nat.mod_lt _ (by decide)
  rw [chunkAt]
  omega

/-- What stands in a chunk are the bytes of the text from the chunk's offset on. -/
theorem byte?_of_chunk (shows : memory.Shows byte?) {left index : Nat} {chunk : List UInt8}
    (read : memory.read? (address.advance offset) (chunkAt (address.advance offset) left)
      = some chunk)
    (inside : index < chunk.length)
    : byte? (address.advance (offset + index)).toNat = chunk[index]? := by
  have within := chunkAt_within_page (address.advance offset) left
  have length := memory.length_read _ _ _ read
  have here : (address.advance offset).toNat % Memory.pageSize + index < Memory.pageSize := by
    omega
  rw [← Address.advance_advance, Address.toNat_advance (Address.inside_of_page here)]
  exact shows _ _ _ within read index inside

/-- A text that ends in a chunk ends at the chunk's first zero. -/
theorem standsFrom_of_chunk (shows : memory.Shows byte?) {left index : Nat}
    {chunk : List UInt8}
    (read : memory.read? (address.advance offset) (chunkAt (address.advance offset) left)
      = some chunk)
    (found : chunk.findIdx? (· = 0) = some index)
    : StandsFrom byte? offset ⟨address, offset + index⟩ := by
  obtain ⟨inside, zero, before⟩ := List.findIdx?_eq_some_iff_getElem.mp found
  simp only [decide_eq_true_eq] at zero before
  refine ⟨Nat.le_add_right _ _, fun place behind within => ?_, ?_⟩
  · obtain ⟨earlier, rfl⟩ := Nat.exists_eq_add_of_le behind
    have sooner : earlier < index := Nat.lt_of_add_lt_add_left within
    have here : earlier < chunk.length := Nat.lt_trans sooner inside
    refine ⟨chunk[earlier], ?_, before earlier sooner⟩
    rw [byte?_of_chunk shows read here, List.getElem?_eq_getElem here]
  · rw [byte?_of_chunk shows read inside, List.getElem?_eq_getElem inside, zero]

/-- A chunk without a zero belongs to the text as a whole. -/
theorem nonzero_of_chunk (shows : memory.Shows byte?) {left place : Nat} {chunk : List UInt8}
    (read : memory.read? (address.advance offset) (chunkAt (address.advance offset) left)
      = some chunk)
    (clear : chunk.findIdx? (· = 0) = none) (behind : offset ≤ place)
    (within : place < offset + chunk.length)
    : ∃ byte, byte? (address.advance place).toNat = some byte ∧ byte ≠ 0 := by
  obtain ⟨index, rfl⟩ := Nat.exists_eq_add_of_le behind
  have inside : index < chunk.length := Nat.lt_of_add_lt_add_left within
  refine ⟨chunk[index], ?_, ?_⟩
  · rw [byte?_of_chunk shows read inside, List.getElem?_eq_getElem inside]
  · have none_zero := List.findIdx?_eq_none_iff.mp clear chunk[index] (List.getElem_mem inside)
    simpa only [decide_eq_false_iff_not] using none_zero

-----------------------------------------------------------------------------------------
-- The whole search
-----------------------------------------------------------------------------------------

/-- What a search finds stands in memory, by induction on the chunks that are left. -/
theorem standsFrom_of_findFrom? (shows : memory.Shows byte?) {text : StoredText}
    (found : findFrom? memory address limit offset = some text)
    : text.address = address ∧ text.length < limit ∧ text.StandsFrom byte? offset := by
  fun_induction findFrom? memory address limit offset with
  | case1 offset more at_ size unread => cases found
  | case2 offset more at_ size chunk read index ended =>
      obtain rfl := Option.some.inj found
      have length : chunk.length = size := memory.length_read _ _ _ read
      have inside := (List.findIdx?_eq_some_iff_findIdx_eq.mp ended).1
      have left : size ≤ limit - offset := by
        show chunkAt at_ (limit - offset) ≤ _
        rw [chunkAt]
        omega
      exact ⟨rfl, by show offset + index < limit; omega, standsFrom_of_chunk shows read ended⟩
  | case3 offset more at_ size chunk read clear ih =>
      obtain ⟨rfl, below, stands⟩ := ih found
      have length : chunk.length = size := memory.length_read _ _ _ read
      refine ⟨rfl, below, Nat.le_trans (Nat.le_add_right _ _) stands.reached,
        fun place behind within => ?_, stands.ended⟩
      rcases Nat.lt_or_ge place (offset + size) with here | later
      · exact nonzero_of_chunk shows read clear behind (length.symm ▸ here)
      · exact stands.nonzero place later within
  | case4 offset done => cases found

/-- A text that ends before the limit is not missed where readability is decided by pages. By
induction on the chunks that are left, each of which starts at a byte of the text.
-/
theorem findFrom?_ne_none (paged : memory.Paged pages) {text : StoredText}
    (start : text.address = address) (below : text.length < limit)
    (stands : text.StandsFrom pages.byte? offset)
    : findFrom? memory address limit offset ≠ none := by
  subst start
  fun_induction findFrom? memory text.address limit offset with
  | case1 offset more at_ size unread =>
      obtain ⟨byte, here⟩ := stands.readable (Nat.le_refl offset) stands.reached
      have readable : pages.readable at_.page = true :=
        (Pages.byte?_eq_some_iff.mp here).1
      have positive : 0 < size := chunkAt_pos at_ _ (Nat.sub_pos_of_lt more)
      rw [paged.read?_eq positive (chunkAt_within_page at_ _), if_pos readable] at unread
      cases unread
  | case2 => exact Option.some_ne_none _
  | case3 offset more at_ size chunk read clear ih =>
      have length : chunk.length = size := memory.length_read _ _ _ read
      have past : offset + size ≤ text.length := by
        rw [← length]
        refine Nat.le_of_not_lt fun before => ?_
        obtain ⟨byte, here, nonzero⟩ :=
          nonzero_of_chunk paged.shows read clear stands.reached before
        exact nonzero (Option.some.inj (here.symm.trans stands.ended))
      exact ih ⟨past, fun place behind => stands.nonzero place (by omega), stands.ended⟩
  | case4 offset done => exact absurd (Nat.lt_of_le_of_lt stands.reached below) done

/-- What is found at an address stands there and ends before the limit. -/
theorem standsFrom_of_find? (shows : memory.Shows byte?) {text : StoredText}
    (found : find? memory address limit = some text)
    : text.address = address ∧ text.length < limit ∧ text.StandsFrom byte? 0 := by
  rw [find?] at found
  split at found
  · cases found
  · exact standsFrom_of_findFrom? shows found

/-- With pages, exactly the texts that stand in memory and end before the limit are found. -/
theorem find?_eq_some_iff_standsFrom (paged : memory.Paged pages) (set : address ≠ .null)
    {text : StoredText}
    : find? memory address limit = some text
      ↔ text.address = address ∧ text.length < limit ∧ text.StandsFrom pages.byte? 0 := by
  refine ⟨standsFrom_of_find? paged.shows, ?_⟩
  rintro ⟨start, below, stands⟩
  have notNull : ¬ address.isNull = true := fun null =>
    set (congrArg Address.mk (of_decide_eq_true null))
  rw [find?, if_neg notNull]
  obtain ⟨other, found⟩ :=
    Option.ne_none_iff_exists'.mp (findFrom?_ne_none paged start below stands)
  obtain ⟨same, _, alsoStands⟩ := standsFrom_of_findFrom? paged.shows found
  rw [found, alsoStands.unique stands (same.trans start.symm)]

-----------------------------------------------------------------------------------------
-- Pages and the first zero
-----------------------------------------------------------------------------------------

/-- With pages, a text stands where its first zero can be reached. -/
theorem standsFrom_iff_reached {length : Nat}
    : StandsFrom pages.byte? 0 ⟨address, length⟩
      ↔ pages.FirstZero address length ∧ pages.ReadableThrough address length := by
  constructor
  · intro stands
    refine ⟨⟨fun offset before => ?_, ?_⟩, fun offset within => ?_⟩
    · obtain ⟨byte, here, nonzero⟩ := stands.nonzero offset (Nat.zero_le _) before
      rwa [(Pages.byte?_eq_some_iff.mp here).2]
    · exact (Pages.byte?_eq_some_iff.mp stands.ended).2
    · obtain ⟨byte, here⟩ := stands.readable (Nat.zero_le offset) within
      exact (Pages.byte?_eq_some_iff.mp here).1
  · rintro ⟨first, through⟩
    refine ⟨Nat.zero_le _, fun place _ before => ?_, ?_⟩
    · have readable := through place (Nat.le_of_lt before)
      exact ⟨_, Pages.byte?_eq_some_iff.mpr ⟨readable, rfl⟩, first.before place before⟩
    · exact Pages.byte?_eq_some_iff.mpr ⟨through length (Nat.le_refl _), first.zero⟩

/-- Where readability is decided for each page, a text is found exactly when its first zero
comes before the limit and all pages up to this zero can be read. So a page behind the zero
never hides a text, and one before it always does.
-/
theorem find?_decided_by_pages (paged : memory.Paged pages) (set : address ≠ .null)
    (limit : Nat)
    : (∀ text,
        find? memory address limit = some text
        ↔ text.address = address ∧ text.length < limit
          ∧ pages.FirstZero address text.length
          ∧ pages.ReadableThrough address text.length)
      ∧ ∀ length < limit,
          pages.FirstZero address length
          → ((find? memory address limit).isSome = true
            ↔ pages.ReadableThrough address length) := by
  have found (length : Nat)
      : find? memory address limit = some ⟨address, length⟩
        ↔ length < limit ∧ pages.FirstZero address length
          ∧ pages.ReadableThrough address length := by
    rw [find?_eq_some_iff_standsFrom paged set, standsFrom_iff_reached]
    exact and_iff_right rfl
  constructor
  · rintro ⟨start, length⟩
    constructor
    · intro text
      obtain rfl : start = address := (standsFrom_of_find? paged.shows text).1
      exact ⟨rfl, (found length).mp text⟩
    · rintro ⟨rfl, reached⟩
      exact (found length).mpr reached
  · intro length below first
    constructor
    · intro some_text
      obtain ⟨⟨start, other⟩, text⟩ := Option.isSome_iff_exists.mp some_text
      obtain rfl : start = address := (standsFrom_of_find? paged.shows text).1
      obtain ⟨_, otherFirst, through⟩ := (found other).mp text
      exact first.unique otherFirst ▸ through
    · intro through
      rw [(found length).mpr ⟨below, first, through⟩]
      rfl

/-- A page between two that cannot be read. Texts end at its first and at its last byte. -/
def lonePage : Pages where
  readable page := page = 8
  byte position := if position = 0x8000 ∨ position = 0x8FFF then 0 else 0x78

/-- In the memory of a process with that page alone, the text that ends with the page is found
in front of the page that cannot be read, and the one that starts before the page is not.
-/
theorem find?_decided_by_pages_of_lone_page
    : (Memory.live {} lonePage).Paged lonePage
      ∧ find? (Memory.live {} lonePage) ⟨0x8FFD⟩ 100 = some ⟨⟨0x8FFD⟩, 2⟩
      ∧ find? (Memory.live {} lonePage) ⟨0x7FFE⟩ 100 = none := by
  have paged : (Memory.live {} lonePage).Paged lonePage := Memory.live_paged rfl (by decide)
  have atEnd := find?_decided_by_pages paged (by decide : (⟨0x8FFD⟩ : Address) ≠ .null) 100
  have before := find?_decided_by_pages paged (by decide : (⟨0x7FFE⟩ : Address) ≠ .null) 100
  refine ⟨paged, ?_, ?_⟩
  · refine (atEnd.1 ⟨⟨0x8FFD⟩, 2⟩).mpr ⟨rfl, by decide, ⟨by decide, by decide⟩, ?_⟩
    unfold Pages.ReadableThrough
    decide
  · refine Option.not_isSome_iff_eq_none.mp fun found => ?_
    have through := (before.2 2 (by decide) ⟨by decide, by decide⟩).mp found
    exact absurd (through 0 (Nat.zero_le 2)) (by decide)

end CrashCapture.Image.StoredText
