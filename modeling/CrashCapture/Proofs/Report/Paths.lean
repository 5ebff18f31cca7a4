import CrashCapture.Proofs.Text.Bytes
import CrashCapture.Proofs.Text.Numerals
import CrashCapture.Report.Assembly

/-! Paths of reports. Putting one together never reaches outside its storage: either the path
fits with its terminator, and then every part has its place, or nothing is touched. For a
directory that was accepted the path of every event fits to the byte, and no two events have
the same one.
-/

namespace CrashCapture

-----------------------------------------------------------------------------------------
-- The bytes of an identifier
-----------------------------------------------------------------------------------------

/-- Padded hexadecimal is nothing but digits. -/
theorem Digits.mem_hexPadded {width n : Nat} {c : Char} (among : c ∈ (hexPadded width n).toList)
    : ∃ digit < 16, c = Nat.digitChar digit := by
  have zero : '0' = Nat.digitChar 0 := rfl
  rw [hexPadded, String.toList_ofList, padLeft, List.mem_append] at among
  rcases among with padding | written
  · exact ⟨0, by decide, (List.eq_of_mem_replicate padding).trans zero⟩
  · unfold numeral at written
    split at written
    next => exact ⟨0, by decide, (List.mem_singleton.mp written).trans zero⟩
    next =>
      obtain ⟨digit, listed, rfl⟩ := List.mem_map.mp written
      exact ⟨digit, lt_of_mem_littleEndian n (List.mem_reverse.mp listed), rfl⟩

namespace EventId

/-- The text of an identifier is 36 characters long. -/
theorem length_toList_text (id : EventId) : id.text.toList.length = textLength := by
  have high := id.high.toNat_lt
  have low := id.low.toNat_lt
  simp (disch := omega) only [toList_text, List.length_append, List.length_cons, List.length_nil,
    Digits.length_hexPadded]
  rfl

/-- An identifier is written with digits and hyphens, small characters and none of them zero. -/
theorem small_of_mem_text (id : EventId)
    : ∀ c ∈ id.text.toList, 0 < c.toNat ∧ c.toNat < 128 := by
  have digits {width n : Nat}
      : ∀ c ∈ (Digits.hexPadded width n).toList, 0 < c.toNat ∧ c.toNat < 128 := by
    intro c among
    obtain ⟨digit, below, rfl⟩ := Digits.mem_hexPadded among
    have placed := Digits.toNat_digitChar_cases below
    omega
  have hyphen : 0 < '-'.toNat ∧ '-'.toNat < 128 := by decide
  simp only [toList_text, List.forall_mem_append, List.forall_mem_cons]
  exact ⟨digits, hyphen, digits, hyphen, digits, hyphen, digits, hyphen, digits, nofun⟩

/-- All characters of an identifier are ASCII, a byte each. -/
theorem bytes_text (id : EventId)
    : Text.bytes id.text = id.text.toList.map fun c => UInt8.ofNat c.toNat := by
  rw [← Text.bytes_ofList fun c among => (id.small_of_mem_text c among).2, String.ofList_toList]

/-- The text of an identifier is 36 bytes long. -/
theorem length_bytes_text (id : EventId) : (Text.bytes id.text).length = textLength := by
  rw [bytes_text, List.length_map, length_toList_text]

/-- No byte of an identifier is zero. -/
theorem zero_not_mem_bytes_text (id : EventId) : 0 ∉ Text.bytes id.text := by
  rw [bytes_text, List.mem_map]
  rintro ⟨c, among, zero⟩
  obtain ⟨positive, small⟩ := id.small_of_mem_text c among
  have value := congrArg UInt8.toNat zero
  rw [UInt8.toNat_ofNat', UInt8.toNat_zero] at value
  omega

end EventId

namespace Report

open Files

-----------------------------------------------------------------------------------------
-- Access to a storage
-----------------------------------------------------------------------------------------

namespace Storage

/-- Dividing behind the front gives both parts. -/
theorem divide_append (front rest : List UInt8)
    : Storage.divide (front ++ rest) front.length = .ok (front, rest) := by
  rw [divide, if_pos (by simp), List.take_left, List.drop_left]

/-- A source takes the place of a part that is as long. -/
theorem copyOver_append {old source : List UInt8} (front rest : List UInt8)
    (same : source.length = old.length) {start stop : Nat} (starts : start = front.length)
    (stops : stop = front.length + old.length)
    : Storage.copyOver (front ++ old ++ rest) start stop source
      = .ok (front ++ source ++ rest) := by
  have inside : ¬ (stop < start ∨ (front ++ old ++ rest).length < stop) := by
    simp only [List.length_append]
    omega
  have fits : ¬ source.length ≠ stop - start := by omega
  subst starts stops
  rw [copyOver, if_neg inside, if_neg fits, ← List.length_append, List.drop_left,
    List.append_assoc front, List.take_left]

/-- The first part of a buffer is its front. -/
theorem first_append (front rest : List UInt8)
    : Storage.first (front ++ rest) front.length = .ok front := by
  rw [first, if_pos (by simp), List.take_left]

/-- A storage that is long enough has the parts that a path is copied to. -/
theorem exists_parts {storage : Storage} {directory name ending : Nat}
    (fits : directory + 1 + name + ending ≤ storage.length)
    : ∃ front byte middle last rest,
        storage = front ++ byte :: (middle ++ (last ++ rest))
        ∧ front.length = directory
        ∧ middle.length = name
        ∧ last.length = ending := by
  have cut (bytes : List UInt8) (count : Nat) (enough : count ≤ bytes.length)
      : ∃ front rest, bytes = front ++ rest ∧ front.length = count :=
    ⟨_, _, (List.take_append_drop count bytes).symm, List.length_take_of_le enough⟩
  obtain ⟨front, behind, rfl, fronts⟩ := cut storage directory (by omega)
  rw [List.length_append] at fits
  cases behind with
  | nil => simp only [List.length_nil] at fits; omega
  | cons byte behind =>
      rw [List.length_cons] at fits
      obtain ⟨middle, behind, rfl, middles⟩ := cut behind name (by omega)
      rw [List.length_append] at fits
      obtain ⟨last, rest, rfl, lasts⟩ := cut behind ending (by omega)
      exact ⟨front, byte, middle, last, rest, rfl, fronts, middles, lasts⟩

end Storage

-----------------------------------------------------------------------------------------
-- The path of a report
-----------------------------------------------------------------------------------------

/-- The path of a report: a text file in a directory, named for its event. -/
def namedPath (directory : Path) (id : String) : Path :=
  directory ++ [Path.slash] ++ Text.bytes id ++ Text.bytes ".txt"

/-- A zero at the end ends a text that has no zero itself. -/
theorem terminated?_concat (bytes : List UInt8)
    : terminated? (bytes ++ [0]) = if 0 ∈ bytes then none else some bytes := by
  rw [terminated?, List.findIdx?_append]
  cases found : bytes.findIdx? (· = 0) with
  | none =>
      have absent : 0 ∉ bytes := fun among => by
        simpa using List.findIdx?_eq_none_iff.mp found 0 among
      simp [absent]
  | some place =>
      obtain ⟨inside, zero, -⟩ := List.findIdx?_eq_some_iff_getElem.mp found
      have among : 0 ∈ bytes := of_decide_eq_true zero ▸ List.getElem_mem inside
      have early : place + 1 ≠ (bytes ++ [0]).length := by
        rw [List.length_append, List.length_singleton]
        omega
      simp only [Option.some_or, if_neg early, if_pos among]

/-- The path with its terminator. -/
theorem namedPath_concat (directory : Path) (id : String)
    : directory ++ [Path.slash] ++ Text.bytes id ++ suffix = namedPath directory id ++ [0] := by
  rw [namedPath, suffix, List.append_assoc _ (Text.bytes ".txt")]

/-- A path with its terminator is the directory, a slash, the identifier and the suffix. -/
theorem length_namedPath (directory : Path) (id : String)
    : (namedPath directory id).length + 1
      = directory.length + 1 + (Text.bytes id).length + suffix.length := by
  have whole := congrArg List.length (namedPath_concat directory id)
  simp only [List.length_append, List.length_singleton] at whole
  exact whole.symm

/-- The path is given where it fits with its terminator and holds no zero. -/
theorem path?_eq (capacity : Nat) (directory : Path) (id : String)
    : path? capacity directory id
      = if capacity < (namedPath directory id).length + 1 ∨ 0 ∈ namedPath directory id then none
        else some (namedPath directory id) := by
  simp only [path?, namedPath_concat, List.dropLast_concat, List.length_append,
    List.length_singleton, List.contains_iff_mem]

/-- A storage that the path does not fit into is left alone. -/
theorem assemble_of_short {directory : Path} {id : String} {storage : Storage}
    (short : storage.length < (namedPath directory id).length + 1)
    : assemble directory id storage = .ok (path? storage.length directory id, storage) := by
  rw [path?_eq, if_pos (.inl short)]
  rw [length_namedPath] at short
  rw [assemble, if_pos short]

/-- Each part of the path takes the place of bytes that are as many. -/
theorem assemble_parts {directory : Path} {id : String} {front middle last : List UInt8}
    (fronts : front.length = directory.length) (middles : middle.length = (Text.bytes id).length)
    (lasts : last.length = suffix.length) (byte : UInt8) (rest : List UInt8)
    : assemble directory id (front ++ byte :: (middle ++ (last ++ rest)))
      = .ok
        (terminated? (namedPath directory id ++ [0]), namedPath directory id ++ [0] ++ rest) := by
  have enough
      : ¬ (front ++ byte :: (middle ++ (last ++ rest))).length
          < directory.length + 1 + (Text.bytes id).length + suffix.length := by
    simp only [List.length_append, List.length_cons]
    omega
  have divided
      : Storage.divide (front ++ byte :: (middle ++ (last ++ rest))) directory.length
        = .ok (front, byte :: (middle ++ (last ++ rest))) := by
    rw [← fronts, Storage.divide_append]
  have placed : Storage.copyOver front 0 front.length directory = .ok directory := by
    simpa using Storage.copyOver_append [] [] fronts.symm rfl (Nat.zero_add _).symm
  have parted
      : Storage.put (byte :: (middle ++ (last ++ rest))) 0 Path.slash
        = .ok (Path.slash :: (middle ++ (last ++ rest))) := rfl
  have identified
      : Storage.copyOver (Path.slash :: (middle ++ (last ++ rest))) 1
          ((Text.bytes id).length + 1) (Text.bytes id)
        = .ok (Path.slash :: (Text.bytes id ++ (last ++ rest))) := by
    simpa using Storage.copyOver_append [Path.slash] (last ++ rest) middles.symm rfl
      (by rw [middles, List.length_singleton, Nat.add_comm])
  have ended
      : Storage.copyOver (Path.slash :: (Text.bytes id ++ (last ++ rest)))
          (1 + (Text.bytes id).length)
          (directory.length + 1 + (Text.bytes id).length + suffix.length - directory.length)
          suffix
        = .ok (Path.slash :: (Text.bytes id ++ (suffix ++ rest))) := by
    simpa using Storage.copyOver_append (Path.slash :: Text.bytes id) rest lasts.symm
      (by rw [List.length_cons, Nat.add_comm]) (by rw [List.length_cons, lasts]; omega)
  have whole
      : directory ++ Path.slash :: (Text.bytes id ++ (suffix ++ rest))
        = namedPath directory id ++ [0] ++ rest := by
    rw [← namedPath_concat]
    simp
  have taken
      : Storage.first (namedPath directory id ++ [0] ++ rest)
          (directory.length + 1 + (Text.bytes id).length + suffix.length)
        = .ok (namedPath directory id ++ [0]) := by
    have cut := Storage.first_append (namedPath directory id ++ [0]) rest
    rwa [List.length_append, List.length_singleton, length_namedPath] at cut
  rw [assemble, if_neg enough, divided]
  simp only [bind, Except.bind, pure, Except.pure, placed, parted, identified, ended, whole, taken]

/-- In a storage that the path fits into every part has its place, and what is behind stays. -/
theorem assemble_of_fits {directory : Path} {id : String} {storage : Storage}
    (fits : (namedPath directory id).length + 1 ≤ storage.length)
    : assemble directory id storage
      = .ok (path? storage.length directory id,
          namedPath directory id ++ [0]
            ++ storage.drop ((namedPath directory id).length + 1)) := by
  have answer
      : path? storage.length directory id = terminated? (namedPath directory id ++ [0]) := by
    rw [terminated?_concat, path?_eq]
    simp only [Nat.not_lt.mpr fits, false_or]
  rw [answer]
  rw [length_namedPath] at fits ⊢
  obtain ⟨front, byte, middle, last, rest, rfl, fronts, middles, lasts⟩ :=
    Storage.exists_parts fits
  have split
      : front ++ byte :: (middle ++ (last ++ rest))
        = front ++ [byte] ++ middle ++ last ++ rest := by
    simp
  have before
      : (front ++ [byte] ++ middle ++ last).length
        = directory.length + 1 + (Text.bytes id).length + suffix.length := by
    simp only [List.length_append, List.length_singleton, fronts, middles, lasts]
  rw [assemble_parts fronts middles lasts, split, List.drop_left' before]

/-- There is no path where it does not fit or holds a zero. -/
theorem path?_eq_none_iff {capacity : Nat} {directory : Path} {id : String}
    : path? capacity directory id = none
      ↔ capacity < (namedPath directory id).length + 1 ∨ 0 ∈ namedPath directory id := by
  rw [path?_eq]
  split <;> simp_all

/-- A path that is given names the event in the directory, and fits. -/
theorem eq_of_path?_eq_some {capacity : Nat} {directory path : Path} {id : String}
    (found : path? capacity directory id = some path)
    : path = namedPath directory id ∧ (namedPath directory id).length + 1 ≤ capacity := by
  rw [path?_eq] at found
  split at found
  · cases found
  next fits => exact ⟨(Option.some.inj found).symm, Nat.not_lt.mp fun short => fits (.inl short)⟩

/-- Whatever there is to put together, it is done inside the storage. -/
theorem assemble_eq_ok (directory : Path) (id : String) (storage : Storage)
    : ∃ after,
        assemble directory id storage = .ok (path? storage.length directory id, after)
        ∧ after.length = storage.length
        ∧ ∀ path, path? storage.length directory id = some path → path ++ [0] <+: after := by
  rcases Nat.lt_or_ge storage.length ((namedPath directory id).length + 1) with short | fits
  · refine ⟨storage, assemble_of_short short, rfl, fun path found => ?_⟩
    exact absurd (eq_of_path?_eq_some found).2 (Nat.not_le.mpr short)
  · refine ⟨_, assemble_of_fits fits, ?_, fun path found => ?_⟩
    · simp only [List.length_append, List.length_singleton, List.length_drop]
      omega
    · rw [(eq_of_path?_eq_some found).1]
      exact List.prefix_append _ _

-----------------------------------------------------------------------------------------
-- Directories and events
-----------------------------------------------------------------------------------------

/-- A directory is accepted once, when every path in it will fit. -/
theorem setDirectory_eq_ok_iff {current accepted : Option Path} {directory : Path}
    : setDirectory current directory = .ok accepted
      ↔ directory.length + 1 + EventId.textLength + suffix.length ≤ pathCapacity
        ∧ current = none
        ∧ accepted = some directory := by
  unfold setDirectory
  split
  next long => simp [Nat.not_le.mpr long]
  next fits => cases current <;> simp [Nat.not_lt.mp fits, eq_comm]

/-- A directory is too long when a path in it would not fit. -/
theorem setDirectory_eq_tooLong_iff {current : Option Path} {directory : Path}
    : setDirectory current directory = .error (.tooLong directory)
      ↔ pathCapacity < directory.length + 1 + EventId.textLength + suffix.length := by
  unfold setDirectory
  split
  next long => simp [long]
  next fits => cases current <;> simp [fits]

/-- All paths in a directory are of one length. -/
theorem length_namedPath_text (directory : Path) (id : EventId)
    : (namedPath directory id.text).length + 1
      = directory.length + 1 + EventId.textLength + suffix.length := by
  rw [length_namedPath, EventId.length_bytes_text]

/-- A directory without a zero has no path with one. -/
theorem zero_not_mem_namedPath {directory : Path} (proper : 0 ∉ directory) (id : EventId)
    : 0 ∉ namedPath directory id.text := by
  have ending : 0 ∉ Text.bytes ".txt" := by decide +kernel
  have slash : 0 ≠ Path.slash := by decide
  simp [namedPath, proper, slash, id.zero_not_mem_bytes_text, ending]

/-- The identifier can be read off the path. -/
theorem namedPath_inj {directory : Path} {first second : String}
    (same : namedPath directory first = namedPath directory second)
    : first = second :=
  Text.bytes_inj (List.append_cancel_left (List.append_cancel_right same))

/-- Putting a path together never reaches outside its storage, whatever directory, identifier and
storage there are. It comes to nothing exactly when the path does not fit with its terminator or
has a zero in it, and otherwise to the directory, a slash, the identifier and the suffix, which
then stand in the storage. In a directory that is accepted and has no zeros every event has its
path, a directory is refused as too long only when no event has one, and no two events have the
same.
-/
theorem assembled_paths_name_events (directory : Path)
    : (∀ (storage : Storage) (id : String),
        ∃ path after,
          assemble directory id storage = .ok (path, after)
          ∧ path = path? storage.length directory id
          ∧ (path = none
              ↔ storage.length < (namedPath directory id).length + 1
                ∨ 0 ∈ namedPath directory id)
          ∧ (∀ found, path = some found → found = namedPath directory id ∧ found ++ [0] <+: after)
          ∧ after.length = storage.length)
      ∧ (0 ∉ directory
          → (∀ current accepted,
              setDirectory current directory = .ok accepted
              → ∀ (storage : Storage) (id : EventId),
                  storage.length = pathCapacity
                  → ∃ after,
                      assemble directory id.text storage
                        = .ok (some (namedPath directory id.text), after))
            ∧ ∀ id : EventId,
                setDirectory none directory = .error (.tooLong directory)
                  ↔ path? pathCapacity directory id.text = none)
      ∧ Function.Injective fun id : EventId => namedPath directory id.text := by
  refine ⟨fun storage id => ?_, fun proper => ⟨?_, fun id => ?_⟩, fun first second same => ?_⟩
  · obtain ⟨after, assembled, same, written⟩ := assemble_eq_ok directory id storage
    exact ⟨_, after, assembled, rfl, path?_eq_none_iff,
      fun found some => ⟨(eq_of_path?_eq_some some).1, written found some⟩, same⟩
  · intro current accepted accepts storage id usual
    obtain ⟨after, assembled, -⟩ := assemble_eq_ok directory id.text storage
    have fits : (namedPath directory id.text).length + 1 ≤ pathCapacity := by
      rw [length_namedPath_text]
      exact (setDirectory_eq_ok_iff.mp accepts).1
    rw [usual, path?_eq,
      if_neg (not_or.mpr ⟨Nat.not_lt.mpr fits, zero_not_mem_namedPath proper id⟩)] at assembled
    exact ⟨after, assembled⟩
  · rw [setDirectory_eq_tooLong_iff, path?_eq_none_iff,
      or_iff_left (zero_not_mem_namedPath proper id), length_namedPath_text]
  · exact EventId.text_injective (namedPath_inj same)

/-- The longest directory that is accepted has 982 bytes, and paths of reports in it fill their
storage.
-/
theorem assembled_paths_name_events_of_longest_directory
    : let directory : Path := List.replicate 982 0x61
      let storage : Storage := List.replicate 1024 0xFF
      0 ∉ directory
      ∧ setDirectory none directory = .ok (some directory)
      ∧ storage.length = pathCapacity
      ∧ (namedPath directory EventId.nil.text).length + 1 = pathCapacity
      ∧ ∃ after,
          assemble directory EventId.nil.text storage
            = .ok (some (namedPath directory EventId.nil.text), after) := by
  intro directory storage
  have proper : 0 ∉ directory := fun among => by
    simpa using List.eq_of_mem_replicate among
  have fills
      : directory.length + 1 + EventId.textLength + suffix.length = pathCapacity := by
    have ending : suffix.length = 5 := by decide +kernel
    rw [List.length_replicate, ending]
    rfl
  have accepted : setDirectory none directory = .ok (some directory) :=
    setDirectory_eq_ok_iff.mpr ⟨fills.le, rfl, rfl⟩
  have usual : storage.length = pathCapacity := List.length_replicate
  exact ⟨proper, accepted, usual, (length_namedPath_text directory .nil).trans fills,
    ((assembled_paths_name_events directory).2.1 proper).1 none _ accepted storage .nil usual⟩

end Report

end CrashCapture
