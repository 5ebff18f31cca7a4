import CrashCapture.Proofs.Files.Emptying

/-! Paths that end in the directory itself or in the one above. Contents are not deleted through
such a path when that can be seen at the end of its text; behind a slash at the end, and in a
path that is no text, it is not seen, and the directory is emptied like any other.
-/

namespace CrashCapture.Files

-----------------------------------------------------------------------------------------
-- The last entry of a text and of its path
-----------------------------------------------------------------------------------------

/-- A path without a slash at its end is one entry, or ends in one behind a slash. -/
theorem Path.split_of_not_asksDirectory {path : Path} (nonempty : path ≠ [])
    (plain : path.asksDirectory = false)
    : ∃ name,
        name ≠ []
        ∧ slash ∉ name
        ∧ (path = name ∨ ∃ front, path = front ++ slash :: name) := by
  by_cases slashed : slash ∈ path
  · obtain ⟨behind, before, whole, last⟩ :=
      List.eq_append_cons_of_mem (List.mem_reverse.mpr slashed)
    have split : path = before.reverse ++ slash :: behind.reverse := by
      rw [← path.reverse_reverse, whole]
      simp
    refine ⟨behind.reverse, ?_, by simpa using last, Or.inr ⟨_, split⟩⟩
    intro nothing
    rw [nothing] at split
    have asks := (asksDirectory_iff path).mpr ⟨_, split⟩
    rw [plain] at asks
    cases asks
  · exact ⟨path, nonempty, slashed, Or.inl rfl⟩

/-- What stands at the end of a text, behind its last slash, is its last entry. -/
theorem lastEntry_eq {text : String} {front word : List Char} (whole : text.toList = front ++ word)
    (plain : '/' ∉ word) (before : front = [] ∨ ∃ more, front = more ++ ['/'])
    : lastEntry text = String.ofList word := by
  have behind : ∀ c ∈ word.reverse, decide (c ≠ '/') = true := by
    intro c among
    exact decide_eq_true fun same => plain (same ▸ List.mem_reverse.mp among)
  rw [lastEntry, whole, List.reverse_append, List.takeWhile_append_of_pos behind]
  rcases before with rfl | ⟨more, rfl⟩ <;> simp

/-- An entry of small characters at the end of a text's path is the last one of the text. -/
theorem lastEntry_of_split {path : Path} {text : String} (word : List Char)
    (decoded : Utf8.decode? path = some text) (small : ∀ c ∈ word, Utf8.Ascii c)
    (plain : '/' ∉ word)
    (ends
      : path = word.map (fun c => UInt8.ofNat c.toNat)
        ∨ ∃ front, path = front ++ Path.slash :: word.map (fun c => UInt8.ofNat c.toNat))
    : lastEntry text = String.ofList word := by
  obtain ⟨chars, valid, rfl⟩ := Option.map_eq_some_iff.mp decoded
  rcases ends with rfl | ⟨front, rfl⟩
  · obtain ⟨start, rfl, nothing⟩ := @Utf8.chars_ascii_end [] chars word valid small
    exact lastEntry_eq String.toList_ofList plain (Or.inl (nothing rfl))
  · have slashed : ∀ c ∈ '/' :: word, Utf8.Ascii c :=
      List.forall_mem_cons.mpr ⟨⟨by decide, by decide⟩, small⟩
    obtain ⟨start, rfl, _⟩ := @Utf8.chars_ascii_end front chars ('/' :: word) valid slashed
    refine @lastEntry_eq _ (start ++ ['/']) word ?_ plain (Or.inr ⟨start, rfl⟩)
    rw [String.toList_ofList, List.append_assoc]
    rfl

/-- A text ends in an entry of small characters exactly when its path does and has no slash
behind that.
-/
theorem lastEntry_eq_iff {path : Path} {text : String} {word : List Char}
    (decoded : Utf8.decode? path = some text) (small : ∀ c ∈ word, Utf8.Ascii c)
    (nonempty : word ≠ []) (plain : '/' ∉ word)
    (unslashed : Path.slash ∉ word.map (fun c => UInt8.ofNat c.toNat))
    : lastEntry text = String.ofList word
      ↔ path.asksDirectory = false
        ∧ path.entries.getLast? = some (word.map (fun c => UInt8.ofNat c.toNat)) := by
  constructor
  · intro last
    refine ⟨Bool.eq_false_iff.mpr fun asks => unslashed ?_,
      entries_getLast?_of_lastEntry word decoded last small nonempty unslashed⟩
    rw [Path.asksDirectory, decide_eq_true_iff] at asks
    have some_bytes : word.map (fun c => UInt8.ofNat c.toNat) ≠ [] := by simpa using nonempty
    rcases split_of_lastEntry word decoded last small with rfl | ⟨start, rfl⟩
    · exact List.mem_of_getLast? asks
    · rw [List.append_cons, List.getLast?_append_of_ne_nil _ some_bytes] at asks
      exact List.mem_of_getLast? asks
  · rintro ⟨no_slash, last⟩
    have some_path : path ≠ [] := by
      rintro rfl
      cases last
    obtain ⟨name, named, single, split⟩ := Path.split_of_not_asksDirectory some_path no_slash
    have alone := Path.entries_of_no_slash named single
    have same : path.entries.getLast? = some name := by
      rcases split with rfl | ⟨front, rfl⟩
      · rw [alone]
        rfl
      · rw [Path.entries_slash, alone, List.getLast?_concat]
    obtain rfl := Option.some.inj (same.symm.trans last)
    exact lastEntry_of_split word decoded small plain split

/-- A path that ends in what its last bytes say: it is a text and has no slash at its end. -/
structure Path.EndsPlainly (path : Path) : Prop where
  text : ∃ text, Utf8.decode? path = some text
  no_slash : path.asksDirectory = false

-----------------------------------------------------------------------------------------
-- What a step to the directory itself or the one above leads to
-----------------------------------------------------------------------------------------

/-- A last step to the directory itself or the one above. -/
def EndsInDots (steps : List Name) : Prop :=
  steps.getLast? = some Path.dot ∨ steps.getLast? = some Path.dotDot

theorem EndsInDots.of_cons {name : Name} {steps : List Name} (ends : EndsInDots (name :: steps))
    (more : steps ≠ [])
    : EndsInDots steps := by
  obtain ⟨next, rest, rfl⟩ := List.exists_cons_of_ne_nil more
  simpa only [EndsInDots, List.getLast?_cons_cons] using ends

theorem EndsInDots.append_left {steps : List Name} (ends : EndsInDots steps) (more : steps ≠ [])
    (front : List Name)
    : EndsInDots (front ++ steps) := by
  simpa only [EndsInDots, List.getLast?_append_of_ne_nil front more] using ends

/-- A step of another name is not the last one. -/
theorem EndsInDots.ne_nil {name : Name} {steps : List Name} (ends : EndsInDots (name :: steps))
    (not_dot : name ≠ Path.dot) (not_dotDot : name ≠ Path.dotDot)
    : steps ≠ [] := by
  rintro rfl
  rcases ends with last | last
  · exact not_dot (Option.some.inj last)
  · exact not_dotDot (Option.some.inj last)

/-- Above a directory there is one. -/
theorem Node.isDir_dropLast {root : Node} {place : Place}
    (inside : (root.get? place).map isDir = some true)
    : (root.get? place.dropLast).map isDir = some true := by
  rcases List.eq_nil_or_concat place with rfl | ⟨above, name, rfl⟩
  · exact inside
  · obtain ⟨node, found, _⟩ := Option.map_eq_some_iff.mp inside
    rw [List.concat_eq_append, get?_append] at found
    obtain ⟨directory, here, entry⟩ := Option.bind_eq_some_iff.mp found
    obtain ⟨mode, entries, rfl⟩ := eq_dir_of_child? entry
    rw [List.concat_eq_append, List.dropLast_concat, here]
    rfl

/-- A walk whose last step is to the directory itself or the one above ends at a directory, by
induction along the walk.
-/
theorem walk_dots {root : Node} {follow : Bool} {links : Nat} {place target : Place}
    {steps : List Name} {node : Node} (ends : EndsInDots steps)
    (reached : walk root follow links place steps = .ok (.node target node))
    : node.isDir = true := by
  -- When nothing is left to do, the place that the last step came to is the target.
  have arrived {links : Nat} {place : Place} (inside : (root.get? place).map Node.isDir = some true)
      (reached : walk root follow links place [] = .ok (.node target node))
      : node.isDir = true := by
    obtain ⟨here, found, directory⟩ := Option.map_eq_some_iff.mp inside
    rw [walk, found] at reached
    obtain ⟨_, rfl⟩ := Found.node.inj (Except.ok.inj reached)
    exact directory
  fun_induction walk root follow links place steps with
  | case1 => rcases ends with last | last <;> cases last
  | case2 | case3 | case4 | case5 | case8 | case9 | case11 => cases reached
  | case6 links place steps inside _ ih =>
      by_cases last : steps = []
      · subst last
        exact arrived inside reached
      · exact ih (ends.of_cons last) reached
  | case7 links place steps inside _ _ ih =>
      by_cases last : steps = []
      · subst last
        exact arrived (Node.isDir_dropLast inside) reached
      · exact ih (ends.of_cons last) reached
  | case10 links place name steps inside short not_dot not_dotDot goal linked stops =>
      exact absurd stops.1 (ends.ne_nil not_dot not_dotDot)
  | case12 place name steps inside short not_dot not_dotDot goal linked goes_on links ih =>
      have more := ends.ne_nil not_dot not_dotDot
      exact ih ((ends.of_cons more).append_left more _) reached
  | case13 links place name steps inside short not_dot not_dotDot node' no_link entry ih =>
      exact ih (ends.of_cons (ends.ne_nil not_dot not_dotDot)) reached

-----------------------------------------------------------------------------------------
-- Which paths are refused
-----------------------------------------------------------------------------------------

namespace Disk

variable {disk : Disk} {path : Path} {refusals : Refusals}

theorem endsInDots_iff
    : EndsInDots path.entries ↔ lastStep path = .dot ∨ lastStep path = .dotDot := by
  have differ : Path.dotDot ≠ Path.dot := by decide
  unfold EndsInDots lastStep
  cases path.entries.getLast? with
  | none => simp
  | some name => grind

/-- A path is refused exactly when it ends plainly in the directory itself or the one above. -/
theorem isDeletable_eq_false_iff
    : isDeletable path = false
      ↔ path.EndsPlainly ∧ (lastStep path = .dot ∨ lastStep path = .dotDot) := by
  rw [← endsInDots_iff]
  unfold isDeletable
  cases decoded : Utf8.decode? path with
  | none =>
      refine iff_of_false (Bool.noConfusion ·) ?_
      rintro ⟨⟨⟨text, valid⟩, _⟩, _⟩
      rw [decoded] at valid
      cases valid
  | some text =>
      have dot : lastEntry text = "." ↔ _ :=
        @lastEntry_eq_iff path text ['.'] decoded (by simp [Utf8.Ascii]) (by decide) (by decide)
          (by decide)
      have dotDot : lastEntry text = ".." ↔ _ :=
        @lastEntry_eq_iff path text ['.', '.'] decoded (by simp [Utf8.Ascii]) (by decide)
          (by decide) (by decide)
      have plain : path.EndsPlainly ↔ path.asksDirectory = false :=
        ⟨fun ends => ends.no_slash, fun no_slash => ⟨⟨text, decoded⟩, no_slash⟩⟩
      rw [decide_eq_false_iff_not, ← or_iff_not_and_not, dot, dotDot, plain, ← and_or_left]
      rfl

/-- What stands at a path that ends in the directory itself or the one above is a directory. -/
theorem isDir_of_status {node : Node} (ends : EndsInDots path.entries)
    (found : disk.status path = .ok node)
    : node.isDir = true := by
  cases looked : disk.lookUp path false with
  | error error =>
      rw [status, looked] at found
      cases found
  | ok reached =>
      obtain ⟨place, other⟩ := reached
      obtain rfl : other = node := by
        rw [status, looked] at found
        exact Except.ok.inj found
      obtain ⟨_, _, _, walked⟩ := locateSteps_eq_ok.mp (lookUp_eq_ok.mp looked)
      refine walk_dots ?_ walked
      rw [Path.steps]
      split
      · exact Or.inl List.getLast?_concat
      · exact ends

/-- At a path that ends in the directory itself or the one above, an argument is called invalid
only when the path is refused.
-/
theorem deleteContents_ne_invalidArgument (ends : EndsInDots path.entries)
    (deletable : isDeletable path = true) (reason : String)
    : (disk.deleteContents refusals path).1 ≠ .error (.invalidArgument reason) := by
  rw [deleteContents, deletable]
  cases looked : disk.status path with
  | error error =>
      by_cases gone : error.toKind = .notFound <;> simp [gone]
  | ok node =>
      have directory := isDir_of_status ends looked
      cases node with
      | dir mode entries => simp
      | file | link | special => cases directory

/-- A path that ends in the directory itself or the one above is refused as an invalid argument
exactly when it is a text without a slash at its end, and then nothing is deleted. Every other
such path is taken: the directory that it leads to is emptied like one that is named.
-/
theorem deleteContents_refuses_plain_dots (disk : Disk) (refusals : Refusals) {path : Path}
    (ends : lastStep path = .dot ∨ lastStep path = .dotDot)
    : ((∃ reason, (disk.deleteContents refusals path).1 = .error (.invalidArgument reason))
        ↔ path.EndsPlainly)
      ∧ (path.EndsPlainly
        → disk.deleteContents refusals path
          = (.error (.invalidArgument ("refusing to delete " ++ path.text)), disk))
      ∧ (¬ path.EndsPlainly
        → ∀ place mode entries,
            disk.root.Sound
            → refusals.openDirectory = false
            → refusals.readDirectory = false
            → disk.lookUp path false = .ok (place, .dir mode entries)
            → (disk.holding place (.dir mode [])).lookUp path false
                = .ok (place, .dir mode [])
            → disk.deleteContents refusals path
              = (.ok (), disk.holding place (.dir mode (Node.kept path entries)))) := by
  have refused (plain : path.EndsPlainly)
      : disk.deleteContents refusals path
        = (.error (.invalidArgument ("refusing to delete " ++ path.text)), disk) := by
    rw [deleteContents, isDeletable_eq_false_iff.mpr ⟨plain, ends⟩]
    rfl
  have taken (unseen : ¬ path.EndsPlainly) : isDeletable path = true :=
    Bool.eq_true_of_not_eq_false fun refused =>
      unseen (isDeletable_eq_false_iff.mp refused).1
  refine ⟨⟨fun invalid => ?_, fun plain => ⟨_, congrArg Prod.fst (refused plain)⟩⟩,
    refused, fun unseen place mode entries sound opens reads found sturdy => ?_⟩
  · obtain ⟨reason, invalid⟩ := invalid
    by_contra unseen
    exact deleteContents_ne_invalidArgument (endsInDots_iff.mpr ends) (taken unseen) reason invalid
  · exact deleteContents_eq_of_deletable sound opens reads (taken unseen) found sturdy

/-- A directory with a file in it, and one behind it whose name is no text. -/
def unreadablyNamed : Disk where
  root :=
    .dir 0o755 [
      (Text.bytes "d", .dir 0o755 [(Text.bytes "f", .file 0o644 [1])]),
      ([0xFF], .dir 0o755 [])]
  working := []

theorem unreadablyNamed_sound : unreadablyNamed.root.Sound := by
  repeat'
    first
    | exact .file _ _
    | refine .dir _ (by decide +kernel) (by decide +kernel) ?_
    | refine List.forall_mem_cons.mpr ⟨?_, ?_⟩
    | exact List.forall_mem_nil _

/-- The directory is emptied through itself with a slash behind it, and is refused without that
slash.
-/
theorem deleteContents_refuses_plain_dots_of_slash
    : lastStep (Text.bytes "d/./") = .dot
      ∧ unreadablyNamed.deleteContents {} (Text.bytes "d/./")
        = (.ok (), unreadablyNamed.holding [Text.bytes "d"] (.dir 0o755 []))
      ∧ lastStep (Text.bytes "d/.") = .dot
      ∧ unreadablyNamed.deleteContents {} (Text.bytes "d/.")
        = (
            .error
              (.invalidArgument ("refusing to delete " ++ Path.text (Text.bytes "d/."))),
            unreadablyNamed
          ) := by
  have slashed : lastStep (Text.bytes "d/./") = .dot := by decide +kernel
  have plain : lastStep (Text.bytes "d/.") = .dot := by decide +kernel
  obtain ⟨_, _, taken⟩ := deleteContents_refuses_plain_dots unreadablyNamed {} (.inl slashed)
  obtain ⟨_, refused, _⟩ := deleteContents_refuses_plain_dots unreadablyNamed {} (.inl plain)
  have unseen : ¬ Path.EndsPlainly (Text.bytes "d/./") :=
    fun seen => absurd seen.no_slash (by decide +kernel)
  have emptied := taken unseen [Text.bytes "d"] 0o755 [(Text.bytes "f", .file 0o644 [1])]
    unreadablyNamed_sound rfl rfl (by cbv) (by cbv)
  have nothing : Node.kept (Text.bytes "d/./") [(Text.bytes "f", .file 0o644 [1])] = [] := by cbv
  rw [nothing] at emptied
  exact ⟨slashed, emptied, plain, refused ⟨⟨"d/.", by decide +kernel⟩, by decide +kernel⟩⟩

/-- Two paths that end in the directory itself and in the one above, and are not refused: what is
in the directory is deleted behind a slash, and what is in the directory above through a path that
is no text.
-/
theorem deleteContents_goes_through_unseen_dots
    : lastStep (Text.bytes "d/./") = .dot
      ∧ unreadablyNamed.deleteContents {} (Text.bytes "d/./")
        = (
            .ok (),
            {
              root := .dir 0o755 [(Text.bytes "d", .dir 0o755 []), ([0xFF], .dir 0o755 [])]
              working := []
            })
      ∧ lastStep (0xFF :: Text.bytes "/..") = .dotDot
      ∧ unreadablyNamed.deleteContents {} (0xFF :: Text.bytes "/..")
        = (.ok (), { root := .dir 0o755 [], working := [] }) :=
  ⟨by decide +kernel, by cbv, by decide +kernel, by cbv⟩

end Disk

end CrashCapture.Files
