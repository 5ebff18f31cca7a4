import CrashCapture.Files.Housekeeping
import CrashCapture.Proofs.Text.Ascii

/-! The entries of paths that are put together, and which paths may be emptied. A path whose
last entry is a name is never taken for one that ends in the directory itself or the one
above, whatever its bytes encode.
-/

namespace CrashCapture.Files

namespace Path

/-- A name that an entry of a directory can have. -/
structure IsName (name : Name) : Prop where
  nonempty : name ≠ []
  no_slash : slash ∉ name
  no_zero : (0 : UInt8) ∉ name
  not_dot : name ≠ dot
  not_dotDot : name ≠ dotDot
  short : name.length ≤ longestName

instance (name : Name) : Decidable (IsName name) :=
  decidable_of_iff
    (name ≠ [] ∧ slash ∉ name ∧ (0 : UInt8) ∉ name ∧ name ≠ dot ∧ name ≠ dotDot
      ∧ name.length ≤ longestName)
    ⟨fun ⟨nonempty, no_slash, no_zero, not_dot, not_dotDot, short⟩ =>
        ⟨nonempty, no_slash, no_zero, not_dot, not_dotDot, short⟩,
      fun valid => ⟨valid.nonempty, valid.no_slash, valid.no_zero, valid.not_dot,
        valid.not_dotDot, valid.short⟩⟩

/-- The path that goes on from another through these entries. -/
def through (path : Path) (names : List Name) : Path := names.foldl join path

-----------------------------------------------------------------------------------------
-- Entries
-----------------------------------------------------------------------------------------

/-- There is always some piece, if only an empty one. -/
theorem pieces_ne_nil (path : Path) : pieces path ≠ [] := by
  cases path with
  | nil => exact List.cons_ne_nil _ _
  | cons byte rest =>
      rw [pieces]
      split
      · exact List.cons_ne_nil _ _
      · split <;> exact List.cons_ne_nil _ _

/-- A slash separates the pieces before it from those behind it, by induction on the bytes
before it.
-/
theorem pieces_slash (front rest : Path)
    : pieces (front ++ slash :: rest) = pieces front ++ pieces rest := by
  induction front with
  | nil =>
      obtain ⟨piece, more, some_pieces⟩ := List.exists_cons_of_ne_nil (pieces_ne_nil rest)
      simp [pieces, some_pieces]
  | cons byte front ih =>
      obtain ⟨piece, more, some_pieces⟩ := List.exists_cons_of_ne_nil (pieces_ne_nil front)
      rw [List.cons_append, pieces, pieces, ih, some_pieces]
      simp only [List.cons_append]
      split <;> rfl

/-- A name without a slash is one piece. -/
theorem pieces_of_no_slash {name : Name} (plain : slash ∉ name) : pieces name = [name] := by
  induction name with
  | nil => rfl
  | cons byte rest ih =>
      rw [List.mem_cons, not_or] at plain
      rw [pieces, ih plain.2]
      exact if_neg (Ne.symm plain.1)

/-- The entries around a slash are those in front and those behind. -/
theorem entries_slash (front rest : Path)
    : entries (front ++ slash :: rest) = entries front ++ entries rest := by
  rw [entries, pieces_slash, List.filter_append]
  rfl

/-- A name is its own entry. -/
theorem entries_of_no_slash {name : Name} (nonempty : name ≠ []) (plain : slash ∉ name)
    : entries name = [name] := by
  rw [entries, pieces_of_no_slash plain]
  simp [nonempty]

/-- A path ends in a slash exactly when another stands before that. -/
theorem asksDirectory_iff (path : Path)
    : path.asksDirectory = true ↔ ∃ front, path = front ++ [slash] := by
  rw [asksDirectory, decide_eq_true_iff, List.getLast?_eq_some_iff]

variable {path : Path} {name : Name}

/-- How a name is joined to a path: behind a slash, which is added where it is missing. -/
theorem join_cases (path : Path) (name : Name)
    : (path = [] ∧ path.join name = name)
      ∨ (∃ front, path = front ++ [slash] ∧ path.join name = front ++ slash :: name)
      ∨ path.join name = path ++ slash :: name := by
  by_cases empty : path = []
  · obtain rfl := empty
    exact Or.inl ⟨rfl, rfl⟩
  · by_cases asks : path.asksDirectory = true
    · obtain ⟨front, rfl⟩ := (asksDirectory_iff path).mp asks
      refine Or.inr (Or.inl ⟨front, rfl, ?_⟩)
      rw [join, if_pos (Or.inr asks), List.append_assoc]
      rfl
    · refine Or.inr (Or.inr ?_)
      rw [join, if_neg (not_or.mpr ⟨empty, asks⟩), List.append_assoc]
      rfl

/-- Joining a name adds it to the entries. -/
theorem entries_join (valid : IsName name)
    : entries (path.join name) = entries path ++ [name] := by
  have single := entries_of_no_slash valid.nonempty valid.no_slash
  rcases join_cases path name with ⟨rfl, joined⟩ | ⟨front, rfl, joined⟩ | joined
  · rw [joined, single]
    rfl
  · rw [joined, entries_slash, single, entries_slash]
    simp [entries, pieces]
  · rw [joined, entries_slash, single]

/-- A path that ends in a name does not ask for a directory. -/
theorem asksDirectory_join (valid : IsName name) : (path.join name).asksDirectory = false := by
  refine Bool.eq_false_iff.mpr fun asks => valid.no_slash (List.mem_of_getLast? ?_)
  rw [asksDirectory, decide_eq_true_iff] at asks
  have last := List.getLast?_eq_some_getLast valid.nonempty
  unfold join at asks
  split at asks <;> rwa [List.getLast?_append, last, Option.some_or, ← last] at asks

/-- The steps of a joined path are its entries, since nothing more is asked for. -/
theorem steps_join (valid : IsName name) : (path.join name).steps = entries path ++ [name] := by
  rw [steps, asksDirectory_join valid, if_neg Bool.false_ne_true, entries_join valid]

/-- Joining leaves the start of a path as it is. -/
theorem isAbsolute_join (nonempty : path ≠ [])
    : (path.join name).isAbsolute = path.isAbsolute := by
  obtain ⟨byte, rest, rfl⟩ := List.exists_cons_of_ne_nil nonempty
  unfold join
  split <;> rfl

/-- A name brings no zero byte into a path. -/
theorem contains_zero_join (valid : IsName name) (clean : path.contains 0 = false)
    : (path.join name).contains 0 = false := by
  have name_clean := valid.no_zero
  unfold join
  split <;> simp_all [slash]

/-- Joining makes a path longer. -/
theorem length_lt_join (valid : IsName name) : path.length < (path.join name).length := by
  have := List.length_pos_iff.mpr valid.nonempty
  unfold join
  split <;> simp only [List.length_append, List.length_singleton] <;> omega

/-- A joined path is not empty. -/
theorem join_ne_nil (valid : IsName name) : path.join name ≠ [] :=
  List.ne_nil_of_length_pos (Nat.zero_lt_of_lt (length_lt_join valid))

/-- Paths get longer on the way, by induction on the names. -/
theorem length_le_through (path : Path) (names : List Name)
    : path.length ≤ (path.through names).length := by
  induction names generalizing path with
  | nil => exact Nat.le_refl _
  | cons name rest ih =>
      refine Nat.le_trans ?_ (ih (path.join name))
      unfold join
      split <;> simp only [List.length_append] <;> omega

end Path

-----------------------------------------------------------------------------------------
-- Paths that may be emptied
-----------------------------------------------------------------------------------------

/-- What stands after the last slash is the whole text or has that slash before it. -/
theorem lastEntry_split (text : String)
    : ∃ front,
        text.toList = front ++ (lastEntry text).toList
        ∧ (front = [] ∨ ∃ more, front = more ++ ['/']) := by
  have parts
      : text.toList
        = (text.toList.reverse.dropWhile (· ≠ '/')).reverse ++ (lastEntry text).toList := by
    rw [lastEntry, String.toList_ofList, ← List.reverse_append, List.takeWhile_append_dropWhile,
      List.reverse_reverse]
  refine ⟨_, parts, ?_⟩
  cases front : text.toList.reverse.dropWhile (· ≠ '/') with
  | nil => exact Or.inl rfl
  | cons c more =>
      have stopped := List.head?_dropWhile_not (· ≠ '/') text.toList.reverse
      rw [front] at stopped
      obtain rfl : c = '/' := by simpa using stopped
      exact Or.inr ⟨more.reverse, List.reverse_cons⟩

/-- Where a text ends in an entry of small characters, its bytes end in theirs, which are all of
it or stand behind a slash.
-/
theorem split_of_lastEntry {path : Path} {text : String} (word : List Char)
    (decoded : Utf8.decode? path = some text) (last : lastEntry text = String.ofList word)
    (small : ∀ c ∈ word, Utf8.Ascii c)
    : path = word.map (fun c => UInt8.ofNat c.toNat)
      ∨ ∃ start, path = start ++ Path.slash :: word.map (fun c => UInt8.ofNat c.toNat) := by
  have valid : (Utf8.pieces path).mapM Utf8.Piece.char? = some text.toList := by
    obtain ⟨chars, read, rfl⟩ := Option.map_eq_some_iff.mp decoded
    rw [read, String.toList_ofList]
  obtain ⟨front, whole, before⟩ := lastEntry_split text
  rw [last, String.toList_ofList] at whole
  rcases before with rfl | ⟨more, rfl⟩
  · obtain ⟨start, bytes, empty⟩ :=
      Utf8.pieces_ascii_end [] word (valid.trans (congrArg some whole)) small
    obtain rfl := empty rfl
    exact Or.inl bytes
  · have slashed : ∀ c ∈ '/' :: word, Utf8.Ascii c :=
      List.forall_mem_cons.mpr ⟨⟨by decide, by decide⟩, small⟩
    rw [List.append_assoc] at whole
    obtain ⟨start, bytes, _⟩ :=
      Utf8.pieces_ascii_end more ('/' :: word) (valid.trans (congrArg some whole)) slashed
    exact Or.inr ⟨start, bytes⟩

/-- Where a text ends in an entry of small characters, the path does. -/
theorem entries_getLast?_of_lastEntry {path : Path} {text : String} (word : List Char)
    (decoded : Utf8.decode? path = some text) (last : lastEntry text = String.ofList word)
    (small : ∀ c ∈ word, Utf8.Ascii c) (nonempty : word ≠ [])
    (plain : Path.slash ∉ word.map (fun c => UInt8.ofNat c.toNat))
    : path.entries.getLast? = some (word.map (fun c => UInt8.ofNat c.toNat)) := by
  have single := Path.entries_of_no_slash (by simpa using nonempty) plain
  rcases split_of_lastEntry word decoded last small with rfl | ⟨start, rfl⟩
  · rw [single]
    rfl
  · rw [Path.entries_slash, single, List.getLast?_concat]

/-- A path whose last entry is a name, or that has none, may be emptied. -/
theorem Disk.isDeletable_of_lastStep {path : Path} (not_dot : lastStep path ≠ .dot)
    (not_dotDot : lastStep path ≠ .dotDot) : isDeletable path = true := by
  unfold isDeletable
  cases decoded : Utf8.decode? path with
  | none => rfl
  | some text =>
      refine decide_eq_true ⟨fun last => not_dot ?_, fun last => not_dotDot ?_⟩
      · have ends := entries_getLast?_of_lastEntry ['.'] decoded last
          (by simp [Utf8.Ascii]) (by decide) (by decide)
        rw [lastStep, ends]
        rfl
      · have ends := entries_getLast?_of_lastEntry ['.', '.'] decoded last
          (by simp [Utf8.Ascii]) (by decide) (by decide)
        rw [lastStep, ends]
        rfl

/-- The last step of a joined path is a name. -/
theorem Disk.lastStep_join (path : Path) {name : Name} (valid : Path.IsName name)
    : lastStep (path.join name) = .name := by
  rw [lastStep, Path.entries_join valid, List.getLast?_concat]
  simp [valid.not_dot, valid.not_dotDot]

/-- A joined path can be deleted, as its last step is a name. -/
theorem Disk.isDeletable_join {path : Path} {name : Name} (valid : Path.IsName name)
    : isDeletable (path.join name) = true := by
  have named := lastStep_join path valid
  exact isDeletable_of_lastStep (by simp [named]) (by simp [named])

end CrashCapture.Files
