import CrashCapture.Proofs.Image.CrashRecord
import CrashCapture.Proofs.Memory.Rearranged

/-! Crash information in memory that changes elsewhere. What is read of a record and of the texts
behind its pointers is the same as long as no byte of them is in the area that changed, even
where a search for the end of a text reads on into it.
-/

namespace CrashCapture.Image

open Memory (ChangedWithin)

variable {before after : Memory} {byte? : Nat → Option UInt8} {first : Address} {area : Nat}

namespace StoredText

variable {address : Address} {limit offset : Nat}

/-- No byte of the text at an address, its end included, is in the area: where the area is
reached, a zero or a byte that cannot be read comes before.
-/
def Apart (byte? : Nat → Option UInt8) (first : Address) (area limit : Nat) (address : Address)
    : Prop :=
  ∀ index < limit,
    first.InArea area (address.advance index)
    → ∃ earlier < index, ∀ byte, byte? (address.advance earlier).toNat = some byte → byte = 0

/-- All bytes of a text before some place are there, and none of them is zero. -/
def GoesOn (byte? : Nat → Option UInt8) (address : Address) (offset : Nat) : Prop :=
  ∀ place < offset, ∃ byte, byte? (address.advance place).toNat = some byte ∧ byte ≠ 0

/-- A place that a text goes on to is not among the commands. -/
theorem Apart.not_inArea (apart : Apart byte? first area limit address)
    (goesOn : GoesOn byte? address offset) (below : offset < limit)
    : ¬ first.InArea area (address.advance offset) := by
  intro inside
  obtain ⟨earlier, sooner, zero⟩ := apart offset below inside
  obtain ⟨byte, here, nonzero⟩ := goesOn earlier sooner
  exact nonzero (zero byte here)

/-- A chunk that has no zero lets the text go on behind it. -/
theorem GoesOn.of_chunk (shows : before.Shows byte?) (goesOn : GoesOn byte? address offset)
    {left index : Nat} {chunk : List UInt8}
    (read : before.read? (address.advance offset) (chunkAt (address.advance offset) left)
      = some chunk)
    (clear : ∀ place < index, ∃ byte, chunk[place]? = some byte ∧ byte ≠ 0)
    : GoesOn byte? address (offset + index) := by
  intro place within
  rcases Nat.lt_or_ge place offset with sooner | behind
  · exact goesOn place sooner
  · obtain ⟨later, rfl⟩ := Nat.exists_eq_add_of_le behind
    obtain ⟨byte, here, nonzero⟩ := clear later (Nat.lt_of_add_lt_add_left within)
    obtain ⟨inside, _⟩ := List.getElem?_eq_some_iff.mp here
    exact ⟨byte, (byte?_of_chunk shows read inside).trans here, nonzero⟩

/-- Where no zero is found every byte of a chunk is another one. -/
theorem set_of_findIdx?_eq_none {chunk : List UInt8} (clear : chunk.findIdx? (· = 0) = none)
    : ∀ place < chunk.length, ∃ byte, chunk[place]? = some byte ∧ byte ≠ 0 := by
  intro place inside
  have nonzero := List.findIdx?_eq_none_iff.mp clear chunk[place] (List.getElem_mem inside)
  exact ⟨chunk[place], List.getElem?_eq_getElem inside, by simpa using nonzero⟩

/-- A chunk is read as it was up to its first zero, and this zero is found where it was. -/
theorem findIdx?_chunk_eq (changed : ChangedWithin first area before after)
    (shows : before.Shows byte?) (apart : Apart byte? first area limit address)
    (goesOn : GoesOn byte? address offset) {old new : List UInt8}
    (read : before.read? (address.advance offset)
      (chunkAt (address.advance offset) (limit - offset)) = some old)
    (new_read : after.read? (address.advance offset)
      (chunkAt (address.advance offset) (limit - offset)) = some new)
    : new.findIdx? (· = 0) = old.findIdx? (· = 0) := by
  have length := before.length_read _ _ _ read
  have new_length := after.length_read _ _ _ new_read
  have left : chunkAt (address.advance offset) (limit - offset) ≤ limit - offset := by
    rw [chunkAt]
    omega
  have same {index : Nat} (inside : index < old.length)
      (clear : ∀ place < index, ∃ byte, old[place]? = some byte ∧ byte ≠ 0)
      : new[index]? = old[index]? := by
    refine changed.same read new_read index (length ▸ inside) ?_
    rw [Address.advance_advance]
    exact apart.not_inArea (goesOn.of_chunk shows read clear) (by omega)
  cases found : old.findIdx? (· = 0) with
  | some index =>
      obtain ⟨inside, zero, nonzero⟩ := List.findIdx?_eq_some_iff_getElem.mp found
      have clear {place : Nat} (sooner : place < index)
          : ∃ byte, old[place]? = some byte ∧ byte ≠ 0 :=
        have here : place < old.length := Nat.lt_trans sooner inside
        ⟨old[place], List.getElem?_eq_getElem here, by simpa using nonzero place sooner⟩
      have kept {place : Nat} (within : place ≤ index) (here : place < new.length)
          (there : place < old.length)
          : new[place] = old[place] := by
        have equal := same there fun earlier sooner => clear (Nat.lt_of_lt_of_le sooner within)
        rw [List.getElem?_eq_getElem here, List.getElem?_eq_getElem there] at equal
        exact Option.some.inj equal
      have whole : new.length = old.length := new_length.trans length.symm
      refine List.findIdx?_eq_some_iff_getElem.mpr ⟨whole ▸ inside, ?_, fun place sooner => ?_⟩
      · rw [kept (Nat.le_refl _) _ inside]
        exact zero
      · rw [kept (Nat.le_of_lt sooner) _ (Nat.lt_trans sooner inside)]
        exact nonzero place sooner
  | none =>
      have whole : new = old := by
        refine List.ext_getElem? fun index => ?_
        rcases Nat.lt_or_ge index old.length with inside | beyond
        · exact same inside fun place sooner =>
            set_of_findIdx?_eq_none found place (Nat.lt_trans sooner inside)
        · rw [List.getElem?_eq_none (by omega), List.getElem?_eq_none (by omega)]
      rw [whole, found]

/-- The end of a text that is apart is found where it was. By induction on the chunks left. -/
theorem findFrom?_eq_of_apart (changed : ChangedWithin first area before after)
    (shows : before.Shows byte?) (apart : Apart byte? first area limit address)
    (goesOn : GoesOn byte? address offset)
    : findFrom? after address limit offset = findFrom? before address limit offset := by
  fun_induction findFrom? before address limit offset with
  | case1 offset more at_ size unread =>
      have positive : 0 < size := chunkAt_pos at_ _ (Nat.sub_pos_of_lt more)
      have new_unread := changed.read?_eq_none positive unread
      simp only [at_, size] at new_unread
      rw [findFrom?, dif_pos more]
      simp only [new_unread]
  | case2 offset more at_ size chunk read index ended =>
      have positive : 0 < size := chunkAt_pos at_ _ (Nat.sub_pos_of_lt more)
      obtain ⟨new, new_read⟩ := changed.exists_read positive read
      have same := findIdx?_chunk_eq changed shows apart goesOn read new_read
      simp only [at_, size] at new_read
      rw [findFrom?, dif_pos more]
      simp only [new_read, same, ended]
  | case3 offset more at_ size chunk read clear ih =>
      have positive : 0 < size := chunkAt_pos at_ _ (Nat.sub_pos_of_lt more)
      obtain ⟨new, new_read⟩ := changed.exists_read positive read
      have same := findIdx?_chunk_eq changed shows apart goesOn read new_read
      have length : chunk.length = size := before.length_read _ _ _ read
      have onward : GoesOn byte? address (offset + size) :=
        length ▸ goesOn.of_chunk shows read (set_of_findIdx?_eq_none clear)
      simp only [at_, size] at new_read
      rw [findFrom?, dif_pos more]
      simp only [new_read, same, clear]
      exact ih onward
  | case4 offset done => rw [findFrom?, dif_neg done]

/-- A text apart from the commands is found as before, when only those changed. -/
theorem find?_eq_of_apart (changed : ChangedWithin first area before after)
    (shows : before.Shows byte?)
    (apart : address ≠ .null → Apart byte? first area limit address)
    : find? after address limit = find? before address limit := by
  rw [find?, find?]
  split
  case isTrue => rfl
  case isFalse set =>
    refine findFrom?_eq_of_apart changed shows (apart fun null => set ?_) ?_
    · rw [null]
      rfl
    · exact fun place none_before => absurd none_before (Nat.not_lt_zero place)

end StoredText

namespace CrashInfo

/-- Where the pointers to texts stand in a record. -/
def pointers : List Nat := [8, 16, 24, 32]

/-- The address that a pointer of a record leads to. -/
def pointed (record : List UInt8) (offset : Nat) : Address :=
  .ofNat (Memory.field record offset 8)

/-- The crash information behind a section of that size is apart from an area: the record when
there is room for one, and when the record is accepted the texts that it points to.
-/
structure Apart (memory : Memory) (byte? : Nat → Option UInt8) (first : Address) (area : Nat)
    (start : Address) (size : Nat)
    : Prop where
  record
    : recordSize ≤ size → ∀ index < recordSize, ¬ first.InArea area (start.advance index)
  texts
    : ∀ record,
        recordSize ≤ size
        → memory.read? start recordSize = some record
        → Accepted record
        → ∀ offset ∈ pointers,
            pointed record offset ≠ .null
            → StoredText.Apart byte? first area (longestText + 1) (pointed record offset)

/-- A record whose texts are apart from the commands is decoded as before. -/
theorem ofRecord_eq_of_apart (changed : ChangedWithin first area before after)
    (shows : before.Shows byte?) {record : List UInt8}
    (apart
      : Accepted record
        → ∀ offset ∈ pointers,
            pointed record offset ≠ .null
            → StoredText.Apart byte? first area (longestText + 1) (pointed record offset))
    : ofRecord after record = ofRecord before record := by
  unfold ofRecord
  dsimp only
  split
  case isTrue => rfl
  case isFalse known =>
    split
    case isTrue => rfl
    case isFalse set =>
      have texts := apart ⟨by omega, by omega⟩
      have same {offset : Nat} (among : offset ∈ pointers)
          : textAt? after record offset = textAt? before record offset :=
        StoredText.find?_eq_of_apart changed shows (texts offset among)
      rw [same (by decide : 8 ∈ pointers), same (by decide : 16 ∈ pointers),
        same (by decide : 24 ∈ pointers), same (by decide : 32 ∈ pointers)]

/-- Crash information that is apart from all that changes is read as before. -/
theorem read_eq_of_apart (changed : ChangedWithin first area before after)
    (shows : before.Shows byte?) {start : Address} {size : Nat}
    (apart : Apart before byte? first area start size)
    : read after start size = read before start size := by
  rw [read, read, changed.isReadable_eq]
  split
  case isTrue => rfl
  case isFalse large =>
    have room : recordSize ≤ size := Nat.le_of_not_lt large
    rw [changed.read?_eq (by decide) (apart.record room)]
    split
    case isFalse => rfl
    case isTrue =>
      cases there : before.read? start recordSize with
      | none => rfl
      | some record => exact ofRecord_eq_of_apart changed shows (apart.texts record room there)

end CrashInfo

end CrashCapture.Image
