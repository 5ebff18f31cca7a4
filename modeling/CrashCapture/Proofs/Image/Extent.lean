import CrashCapture.Proofs.Image.Resolution
import CrashCapture.Proofs.Image.Survey

/-! The extent that an image is described with, which is that of its last text segment. Whatever
the segments of other images cover, no address in the extent goes without an owner, and none gets
an owner behind the image, as long as the loader moved the image by the slide that its
description has.
-/

namespace CrashCapture.Image

open Log (Noted)

/-- The linked extent of an image's last text segment, an empty one when it has none. -/
def Header.textExtent (memory : Memory) (header : Header) : UInt64 × UInt64 :=
  ((header.text? memory).map fun segment => (segment.vmAddress, segment.vmSize)).getD (0, 0)

/-- The pass over the commands ends with the extent of the text. -/
theorem Survey.foldl_add_extent (memory : Memory) (header : Header)
    : ((Commands.ofHeader memory header).list.foldl (add memory header.width) {}).text.getD
          (0, 0)
      = header.textExtent memory := by
  rw [foldl_add_text, Option.or_none]
  rfl

/-- An address in an extent that is not empty lies in the segment that the extent is from. -/
theorem Header.covers_of_textExtent {memory : Memory} {header : Header} {linked : UInt64}
    (above : (header.textExtent memory).1.toNat ≤ linked.toNat)
    (below
      : linked.toNat < (header.textExtent memory).1.toNat + (header.textExtent memory).2.toNat)
    : ∃ segment ∈ header.segments memory, segment.Covers linked := by
  cases text : header.text? memory with
  | none =>
      simp [textExtent, text] at below
  | some segment =>
      simp only [textExtent, text, Option.map_some, Option.getD_some] at above below
      have among := List.mem_of_getLast? text
      exact ⟨segment, (List.mem_filter.mp among).1, above, below⟩

namespace Table

variable {table : Table} {image : Description}

/-- Where an image is described to be: at its header, with the extent of its text and the slide
between the two.
-/
theorem describe?_value_extent {address : Address} {name : Option (List UInt8)}
    (described : (table.describe? address name).value = some image)
    : ∃ header,
        (Header.read? table.memory address).value = some header
        ∧ image.address = address
        ∧ (image.vmAddress, image.size) = header.textExtent table.memory
        ∧ image.slide = address.value - image.vmAddress := by
  rw [describe?, Noted.value_bind] at described
  cases read : (Header.read? table.memory address).value with
  | none =>
      rw [read] at described
      cases described
  | some header =>
      simp only [read, Noted.value_bind, Noted.value_pure, Commands.all,
        Survey.foldl_add_extent] at described
      split at described
      all_goals
        obtain rfl := Option.some.inj described
        exact ⟨header, rfl, rfl, rfl, rfl⟩

/-- An address in the extent of an image is moved into the linked extent, which does not wrap. -/
theorem toNat_unslid {address start : UInt64} {linked size : UInt64}
    (fits : linked.toNat + size.toNat ≤ UInt64.size)
    (inside : (address - start).toNat < size.toNat)
    : (address - (start - linked)).toNat = linked.toNat + (address - start).toNat := by
  have moved : address - (start - linked) = linked + (address - start) := by grind
  rw [moved, UInt64.toNat_add]
  exact Nat.mod_eq_of_lt (by simp only [UInt64.size] at fits; omega)

/-- Where one image holds the address, the first that does so owns it. -/
theorem Holds.indexContaining?_value {address start : Address} {index : Nat} {header : Header}
    (holds : table.Holds address index start header) (listed : index < table.source.count)
    : ∃ owner ≤ index, (table.indexContaining? address).value = some owner := by
  cases found : (table.indexContaining? address).value with
  | none => exact absurd holds (indexContaining?_value_eq_none_iff.mp found index listed _ _)
  | some owner =>
      obtain ⟨_, _, owns⟩ := indexContaining?_value_eq_some_iff.mp found
      exact ⟨owner, Nat.le_of_not_lt fun before => owns.first index before _ _ holds, rfl⟩

/-- An image is described with the slide between its header and its text; and when its extent
ends within the linked addresses and the loader reports that slide, every address inside the
extent where the image is loaded is owned, by that image or by one before it.
-/
theorem described_extent_is_owned {index : Nat} (listed : index < table.source.count)
    (described : (table.imageAt? index).value = some image)
    (fits : image.vmAddress.toNat + image.size.toNat ≤ UInt64.size)
    (slid : (table.source.image index).slide = image.slide)
    : image.slide = image.address.value - image.vmAddress
      ∧ ∀ address : Address,
          (address.value - image.address.value).toNat < image.size.toNat
          → ∃ owner ≤ index, (table.indexContaining? address).value = some owner := by
  rw [imageAt?] at described
  cases present : (table.source.image index).header with
  | none =>
      rw [present] at described
      cases described
  | some start =>
      rw [present] at described
      obtain ⟨header, read, rfl, extent, slide⟩ := describe?_value_extent described
      obtain ⟨magic, fields⟩ := Header.read?_value_eq_some_iff.mp read
      refine ⟨slide, fun address inside => ?_⟩
      have linked := toNat_unslid fits inside
      rw [← slide, ← slid] at linked
      have covered : ∃ segment ∈ header.segments table.memory,
          segment.Covers (table.unslid index address) := by
        refine Header.covers_of_textExtent ?_ ?_
        all_goals
          rw [← extent, unslid, linked]
          dsimp only
          omega
      exact Holds.indexContaining?_value ⟨present, magic, fields, covered⟩ listed

/-- An image with a text segment of one page. -/
def textImage : List UInt8 :=
  ([0xFEEDFACE, 7, 3, 2, 1, 56, 0]
    ++ [1, 56, 0x45545F5F, 0x5458, 0, 0, 0x1000, 0x1000, 0, 0, 0, 0, 0, 0]).flatMap wordBytes

/-- The second image has its text at 0xA000; a segment of the first one lies over the upper half
of that.
-/
def overlapped : Table where
  source := .ofList [{ header := some ⟨0x8000⟩, slide := 0x9800 },
    { header := some ⟨0xA000⟩, slide := 0x9000 }]
  memory := .ofRegions [⟨0x8000, smallImage.toArray⟩, ⟨0xA000, textImage.toArray⟩]

/-- An address in the lower half of that text is owned by its image, the last address of the text
by the other one.
-/
theorem described_extent_is_owned_of_overlapped_text
    : ∃ image lower upper,
        (overlapped.imageAt? 1).value = some image
        ∧ image.slide = 0x9000
        ∧ (overlapped.indexContaining? ⟨0xA100⟩).value = some lower ∧ lower = 1
        ∧ (overlapped.indexContaining? ⟨0xAFFF⟩).value = some upper ∧ upper = 0 := by
  obtain ⟨image, described, extent⟩ : ∃ image, (overlapped.imageAt? 1).value = some image
      ∧ (image.address, image.vmAddress, image.size, image.slide)
        = (⟨0xA000⟩, 0x1000, 0x1000, 0x9000) :=
    Option.map_eq_some_iff.mp (by decide +kernel)
  obtain ⟨start, linked, size, slide⟩ := by simpa only [Prod.mk.injEq] using extent
  obtain ⟨_, owned⟩ := @described_extent_is_owned overlapped image 1 (by decide)
    described (by rw [linked, size]; decide) slide.symm
  obtain ⟨lower, _, below⟩ := owned ⟨0xA100⟩ (by rw [start, size]; decide)
  obtain ⟨upper, _, above⟩ := owned ⟨0xAFFF⟩ (by rw [start, size]; decide)
  have first : (overlapped.indexContaining? ⟨0xA100⟩).value = some 1 := by decide +kernel
  have second : (overlapped.indexContaining? ⟨0xAFFF⟩).value = some 0 := by decide +kernel
  exact ⟨image, lower, upper, described, slide, below, Option.some.inj (below.symm.trans first),
    above, Option.some.inj (above.symm.trans second)⟩

end Table

end CrashCapture.Image
