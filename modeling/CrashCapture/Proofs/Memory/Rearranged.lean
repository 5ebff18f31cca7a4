import CrashCapture.Proofs.Memory.Checked
import CrashCapture.Proofs.Memory.Contents

/-! Memory of which one area has changed. Whatever could be read can be read still, and what is
read outside of the area is what was there before.
-/

namespace CrashCapture

namespace Address

variable {first address start : Address} {area : Nat}

/-- An address is one of so many from the first one on; they may go on behind the last address. -/
def InArea (first : Address) (area : Nat) (address : Address) : Prop :=
  (address.value - first.value).toNat < area

instance : Decidable (first.InArea area address) := inferInstanceAs (Decidable (_ < _))

theorem not_inArea_of_behind {offset : Nat} (behind : area ≤ offset)
    (inside : offset < UInt64.size)
    : ¬ first.InArea area (first.advance offset) := by
  have distance : (first.advance offset).value - first.value = UInt64.ofNat offset := by
    show first.value + UInt64.ofNat offset - first.value = _
    rw [UInt64.add_comm, UInt64.add_sub_cancel]
  rw [InArea, distance, UInt64.toNat_ofNat_of_lt' inside]
  exact Nat.not_lt_of_le behind

theorem not_inArea_of_before {offset skipped : Nat} (before : offset < skipped)
    (room : area + skipped ≤ UInt64.size)
    : ¬ (start.advance skipped).InArea area (start.advance offset) := by
  have distance : (start.advance offset).value - (start.advance skipped).value
      = UInt64.ofNat offset - UInt64.ofNat skipped := by
    show start.value + UInt64.ofNat offset - (start.value + UInt64.ofNat skipped) = _
    grind
  have small : skipped < UInt64.size ∨ area = 0 := by omega
  rcases small with small | nothing
  · rw [InArea, distance, UInt64.toNat_sub, UInt64.toNat_ofNat_of_lt' small,
      UInt64.toNat_ofNat_of_lt' (Nat.lt_trans before small)]
    simp only [UInt64.size] at *
    omega
  · rw [InArea, nothing]
    exact Nat.not_lt_zero _

end Address

namespace Memory

/-- Between two memories nothing changes but bytes in an area. -/
structure ChangedWithin (first : Address) (area : Nat) (before after : Memory) : Prop where
  readable
    : ∀ address count,
        0 < count
        → (after.read? address count).isSome = (before.read? address count).isSome
  same
    : ∀ {address count old new},
        before.read? address count = some old
        → after.read? address count = some new
        → ∀ index < count,
            ¬ first.InArea area (address.advance index) → new[index]? = old[index]?

variable {before after : Memory} {was is : Nat → Option UInt8} {first address : Address}
  {area count : Nat}

theorem ChangedWithin.exists_read (changed : ChangedWithin first area before after)
    (positive : 0 < count) {old : List UInt8} (read : before.read? address count = some old)
    : ∃ new, after.read? address count = some new := by
  rw [← Option.isSome_iff_exists, changed.readable address count positive, read]
  rfl

theorem ChangedWithin.read?_eq_none (changed : ChangedWithin first area before after)
    (positive : 0 < count) (unread : before.read? address count = none)
    : after.read? address count = none := by
  rw [← Option.not_isSome_iff_eq_none, changed.readable address count positive, unread]
  exact Bool.false_ne_true

/-- A read that does not touch the area has the answer that it had. -/
theorem ChangedWithin.read?_eq (changed : ChangedWithin first area before after)
    (positive : 0 < count)
    (apart : ∀ index < count, ¬ first.InArea area (address.advance index))
    : after.read? address count = before.read? address count := by
  cases read : before.read? address count with
  | none => exact changed.read?_eq_none positive read
  | some old =>
      obtain ⟨new, new_read⟩ := changed.exists_read positive read
      have length := before.length_read _ _ _ read
      have new_length := after.length_read _ _ _ new_read
      rw [new_read]
      refine congrArg some (List.ext_getElem? fun index => ?_)
      rcases Nat.lt_or_ge index count with inside | beyond
      · exact changed.same read new_read index inside (apart index inside)
      · rw [List.getElem?_eq_none (by omega), List.getElem?_eq_none (by omega)]

/-- A probe asks only whether reads succeed. By induction on the pieces that are left. -/
theorem ChangedWithin.isReadable_eq (changed : ChangedWithin first area before after)
    (address : Address) (count : Nat)
    : after.isReadable address count = before.isReadable address count := by
  fun_induction isReadable before address count with
  | case1 => rw [isReadable, if_pos rfl]
  | case2 address count some_left piece ih =>
      have positive : 0 < piece := by
        have probe : 0 < probeSize := by decide
        exact Nat.lt_min.mpr ⟨Nat.pos_of_ne_zero some_left, probe⟩
      rw [isReadable, if_neg some_left]
      show ((after.read? address piece).isSome && _) = _
      rw [changed.readable _ _ positive, ih]

-----------------------------------------------------------------------------------------
-- Memory that decides for each byte whether it can be read
-----------------------------------------------------------------------------------------

/-- A read succeeds when it stays in the address space and there is a byte at every place. -/
theorem Bytewise.isSome_read?_iff {memory : Memory} {byte? : Nat → Option UInt8}
    (bytewise : memory.Bytewise byte?) (positive : 0 < count)
    : (memory.read? address count).isSome = true
      ↔ address.toNat + count ≤ UInt64.size
        ∧ ∀ index < count, (byte? (address.toNat + index)).isSome = true := by
  rw [Option.isSome_iff_exists]
  constructor
  · rintro ⟨bytes, read⟩
    obtain ⟨inside, length, holds⟩ := (bytewise.read?_eq_some_iff positive).mp read
    refine ⟨inside, fun index within => ?_⟩
    rw [holds index (length ▸ within), List.getElem?_eq_getElem (length ▸ within)]
    rfl
  · rintro ⟨inside, there⟩
    refine ⟨(List.range count).map fun index => (byte? (address.toNat + index)).getD 0,
      (bytewise.read?_eq_some_iff positive).mpr ⟨inside, by simp, fun index within => ?_⟩⟩
    have placed : index < count := by simpa using within
    obtain ⟨byte, here⟩ := Option.isSome_iff_exists.mp (there index placed)
    simp [List.getElem?_range placed, here]

/-- When bytes are readable in the same places, and differ in the area only, so do reads. -/
theorem Bytewise.changedWithin (old : before.Bytewise was) (new : after.Bytewise is)
    (readable : ∀ position, (is position).isSome = (was position).isSome)
    (same : ∀ position < UInt64.size,
      ¬ first.InArea area (.ofNat position) → is position = was position)
    : ChangedWithin first area before after := by
  refine ⟨fun address count positive => ?_, fun {address count} _ _ read new_read index within
    outside => ?_⟩
  · rw [Bool.eq_iff_iff, old.isSome_read?_iff positive, new.isSome_read?_iff positive]
    simp only [readable]
  · have positive : 0 < count := Nat.zero_lt_of_lt within
    obtain ⟨inside, length, holds⟩ := (old.read?_eq_some_iff positive).mp read
    obtain ⟨_, new_length, new_holds⟩ := (new.read?_eq_some_iff positive).mp new_read
    have place : (address.advance index).toNat = address.toNat + index :=
      Address.toNat_advance (by omega)
    have itself : Address.ofNat (address.toNat + index) = address.advance index := by
      rw [← place]
      exact congrArg Address.mk UInt64.ofNat_toNat
    rw [← holds index (length ▸ within), ← new_holds index (new_length ▸ within)]
    exact same _ (by omega) (itself ▸ outside)

/-- Where the same bytes stand, the same is read. -/
theorem Bytewise.read?_eq (old : before.Bytewise was) (new : after.Bytewise is)
    {target : Address} (positive : 0 < count)
    (source_inside : address.toNat + count ≤ UInt64.size)
    (target_inside : target.toNat + count ≤ UInt64.size)
    (same : ∀ index < count, is (target.toNat + index) = was (address.toNat + index))
    : after.read? target count = before.read? address count := by
  refine Option.ext fun bytes => ?_
  rw [old.read?_eq_some_iff positive, new.read?_eq_some_iff positive, and_iff_right target_inside,
    and_iff_right source_inside]
  refine and_congr_right fun length => forall₂_congr fun index within => ?_
  rw [same index (length ▸ within)]

/-- The bytes of a single region stand from its start on. -/
theorem regionByte?_singleton (start : Nat) (bytes : List UInt8) (position : Nat)
    : regionByte? [⟨start, bytes.toArray⟩] position
      = if start ≤ position then bytes[position - start]? else none := by
  simp [regionByte?, Region.byte?]

/-- A part of the bytes of a region is an area. -/
theorem ofRegions_changedWithin {start skipped : Nat} {old new : List UInt8}
    (length : new.length = old.length) (front : new.take skipped = old.take skipped)
    (back : new.drop (skipped + area) = old.drop (skipped + area))
    : ChangedWithin (.ofNat (start + skipped)) area (ofRegions [⟨start, old.toArray⟩])
        (ofRegions [⟨start, new.toArray⟩]) := by
  refine (ofRegions_bytewise _).changedWithin (ofRegions_bytewise _) (fun position => ?_)
    (fun position inside outside => ?_)
  · rw [regionByte?_singleton, regionByte?_singleton]
    split
    · rw [Bool.eq_iff_iff]
      simp [length]
    · rfl
  · rw [regionByte?_singleton, regionByte?_singleton]
    split
    case isFalse => rfl
    case isTrue above =>
      rcases Nat.lt_or_ge (position - start) skipped with sooner | behind
      · rw [← List.getElem?_take_of_lt sooner, front, List.getElem?_take_of_lt sooner]
      · have ordered : UInt64.ofNat (start + skipped) ≤ UInt64.ofNat position := by
          rw [UInt64.le_iff_toNat_le, UInt64.toNat_ofNat_of_lt' inside,
            UInt64.toNat_ofNat_of_lt' (by omega)]
          omega
        rw [Address.InArea, Address.ofNat, Address.ofNat, UInt64.toNat_sub_of_le _ _ ordered,
          UInt64.toNat_ofNat_of_lt' inside, UInt64.toNat_ofNat_of_lt' (by omega)] at outside
        obtain ⟨later, place⟩ : ∃ later, position - start = skipped + area + later :=
          Nat.exists_eq_add_of_le (by omega)
        rw [place, ← List.getElem?_drop, back, List.getElem?_drop]

end Memory

end CrashCapture
