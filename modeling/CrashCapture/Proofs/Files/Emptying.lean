import CrashCapture.Proofs.Files.Remains
import CrashCapture.Proofs.Files.Routes
import Mathlib

/-! Emptying a directory. Every entry that can be deleted is, each in its own directory and with
everything below it, whatever becomes of the others; links go as they are and nothing else
changes.
-/

namespace CrashCapture.Files

open Node (Stuck StuckWithin kept keptEntry own)

-----------------------------------------------------------------------------------------
-- One entry among others
-----------------------------------------------------------------------------------------

variable {disk : Disk} {path : Path} {place : Place} {old node new : Node} {mode : Nat}
  {done rest : List (Name × Node)} {name : Name} {refusals : Refusals}

namespace Node

/-- A change of an entry leaves those before and behind it, by induction on those before. -/
theorem alterEntry_middle (change : Option Node → Option Node) (node : Node)
    (rest : List (Name × Node)) (absent : name ∉ done.map (·.1))
    : alterEntry change name (done ++ (name, node) :: rest)
      = done ++ ((change (some node)).map fun made => (name, made)).toList ++ rest := by
  induction done with
  | nil => simp [alterEntry]
  | cons entry done ih =>
      rw [List.map_cons, List.mem_cons, not_or] at absent
      rw [List.cons_append, alterEntry, if_neg (Ne.symm absent.1), ih absent.2]
      rfl

theorem child?_middle (mode : Nat) (node : Node) (rest : List (Name × Node))
    (absent : name ∉ done.map (·.1))
    : (dir mode (done ++ (name, node) :: rest)).child? name = some node := by
  induction done with
  | nil => exact child?_cons_self ..
  | cons entry done ih =>
      rw [List.map_cons, List.mem_cons, not_or] at absent
      rw [List.cons_append, child?_cons_of_ne mode _ (Ne.symm absent.1), ih absent.2]

end Node

namespace Disk

theorem holding_get? (held : disk.root.get? place = some old) (new : Node) (below : Place)
    : (disk.holding place new).root.get? (place ++ below) = new.get? below :=
  Node.get?_graft held new below

theorem holding_middle (held : disk.root.get? place = some old)
    (absent : name ∉ done.map (·.1))
    : (disk.holding place (.dir mode (done ++ (name, node) :: rest))).root.get? (place ++ [name])
      = some node := by
  rw [holding_get? held, Node.get?, Node.child?_middle mode node rest absent]
  rfl

/-- What is put in the place of an entry stands among the others. -/
theorem holding_holding (held : disk.root.get? place = some old)
    (absent : name ∉ done.map (·.1))
    : (disk.holding place (.dir mode (done ++ (name, node) :: rest))).holding (place ++ [name]) new
      = disk.holding place (.dir mode (done ++ (name, new) :: rest)) := by
  have inner
      : (Node.dir mode (done ++ (name, node) :: rest)).graft [name] new
        = .dir mode (done ++ (name, new) :: rest) := by
    rw [Node.graft, Node.alterEntry_middle _ node rest absent]
    simp [Node.graft]
  rw [holding, holding, holding, Node.graft_graft held, inner]

/-- An entry that is removed leaves the others. -/
theorem removeAt_holding (held : disk.root.get? place = some old)
    (absent : name ∉ done.map (·.1))
    : (disk.holding place (.dir mode (done ++ (name, node) :: rest))).removeAt (place ++ [name])
      = disk.holding place (.dir mode (done ++ rest)) := by
  have here := holding_get? held (.dir mode (done ++ (name, node) :: rest)) []
  rw [List.append_nil] at here
  have same := Node.graft_graft held (.dir mode (done ++ (name, node) :: rest)) []
    (.dir mode (done ++ rest))
  rw [List.append_nil] at same
  rw [removeAt, Node.remove_eq_graft here, Node.alterEntry_middle _ node rest absent]
  simp only [Option.map_none, Option.toList_none, List.append_nil]
  rw [holding, same]
  rfl

/-- A directory that a path leads to when it is empty is led to with entries in it. -/
theorem Leads.holding (held : disk.root.get? place = some old)
    (sturdy : (disk.holding place (.dir mode [])).Leads path place)
    (entries : List (Name × Node))
    : (disk.holding place (.dir mode entries)).Leads path place :=
  sturdy.mono rfl (Node.graft_within held rfl)

-----------------------------------------------------------------------------------------
-- Removing an entry
-----------------------------------------------------------------------------------------

/-- A file, a link or an empty directory is removed through its path. -/
theorem Leads.removeFile_join (leads : disk.Leads path place) (valid : Path.IsName name)
    (found : disk.root.get? (place ++ [name]) = some node)
    (fits : (path.join name).length ≤ longestPath) (empty : node.entries = [])
    : (disk.removeFile (path.join name) false).2 = disk.removeAt (place ++ [name]) := by
  have looked := leads.status_join valid found fits
  have located := leads.locateEntry_join valid found fits
  rw [removeFile, looked]
  cases directory : node.isDir with
  | true =>
      simp [removeDirectory, located, lastStep_join path valid, directory, empty, bind, Except.bind,
        pure, Except.pure]
  | false =>
      simp [unlink, located, Path.asksDirectory_join valid, directory, bind, Except.bind,
        pure, Except.pure]

/-- A directory with entries stays. -/
theorem Leads.removeFile_join_of_full {entries : List (Name × Node)}
    (leads : disk.Leads path place) (valid : Path.IsName name)
    (found : disk.root.get? (place ++ [name]) = some (.dir mode entries))
    (fits : (path.join name).length ≤ longestPath) (full : entries ≠ [])
    : (disk.removeFile (path.join name) false).2 = disk := by
  have looked := leads.status_join valid found fits
  have located := leads.locateEntry_join valid found fits
  rw [removeFile, looked]
  simp only [removeDirectory, located, lastStep_join path valid, Node.isDir, Node.entries, bind,
    Except.bind, throw, throwThe, MonadExceptOf.throw, if_true, Bool.not_true]
  simp only [List.isEmpty_eq_false_iff.mpr full, Bool.not_false, if_true]
  rfl

-----------------------------------------------------------------------------------------
-- The sweep
-----------------------------------------------------------------------------------------

/-- Whatever directory the node is an entry of, and whatever else is in that, sweeping the entry
leaves what is left of it and nothing else changes.
-/
def SweptAs (refusals : Refusals) (node : Node) : Prop :=
  ∀ {disk : Disk} {path : Path} {place : Place} {old : Node} {mode : Nat}
    {done rest : List (Name × Node)} {name : Name},
    disk.root.get? place = some old
    → (disk.holding place (.dir mode [])).Leads path place
    → Path.IsName name
    → name ∉ done.map (·.1)
    → sweepEntry refusals path (disk.holding place (.dir mode (done ++ (name, node) :: rest)))
          (name, node)
        = disk.holding place (.dir mode (done ++ keptEntry path (name, node) ++ rest))

/-- The entries of a directory are swept one after the other, by induction on those to come. -/
theorem sweepEntries_eq (done rest : List (Name × Node))
    (held : disk.root.get? place = some old)
    (sturdy : (disk.holding place (.dir mode [])).Leads path place)
    (names : ∀ entry ∈ rest, Path.IsName entry.1) (distinct : (rest.map (·.1)).Nodup)
    (fresh : ∀ entry ∈ rest, entry.1 ∉ done.map (·.1))
    (each : ∀ entry ∈ rest, SweptAs refusals entry.2)
    : sweepEntries refusals path (disk.holding place (.dir mode (done ++ rest))) rest
      = disk.holding place (.dir mode (done ++ kept path rest)) := by
  induction rest generalizing done with
  | nil => rw [sweepEntries, kept]
  | cons entry rest ih =>
      obtain ⟨name, node⟩ := entry
      obtain ⟨other, distinct⟩ := List.nodup_cons.mp distinct
      obtain ⟨valid, names⟩ := List.forall_mem_cons.mp names
      obtain ⟨absent, fresh⟩ := List.forall_mem_cons.mp fresh
      obtain ⟨first, each⟩ := List.forall_mem_cons.mp each
      have still_fresh
          : ∀ entry ∈ rest, entry.1 ∉ (done ++ keptEntry path (name, node)).map (·.1) := by
        intro entry member among
        obtain ⟨left, among, same⟩ := List.mem_map.mp among
        rcases List.mem_append.mp among with before | here
        · exact fresh entry member (List.mem_map.mpr ⟨left, before, same⟩)
        · have named := Node.name_of_mem_keptEntry here
          exact other (List.mem_map.mpr ⟨entry, member, same.symm.trans named⟩)
      rw [sweepEntries, first held sturdy valid absent, ih _ names distinct still_fresh each, kept,
        List.append_assoc]

/-- What cannot be looked at stays. -/
theorem sweep_of_error {error : IoError} (looked : disk.status path = .error error)
    : sweep refusals path disk node = disk := by
  cases node <;> simp [sweep, looked]

/-- An entry whose path is too long stays, so that only the others have to be looked at; they
are found at their paths.
-/
theorem sweptAs_of_fitting
    (swept
      : ∀ {disk full : Disk} {path : Path} {place : Place} {old : Node} {mode : Nat}
          {done rest : List (Name × Node)} {name : Name},
          disk.root.get? place = some old
          → (disk.holding place (.dir mode [])).Leads path place
          → Path.IsName name
          → name ∉ done.map (·.1)
          → (path.join name).length ≤ longestPath
          → disk.holding place (.dir mode (done ++ (name, node) :: rest)) = full
          → full.Leads path place
          → full.root.get? (place ++ [name]) = some node
          → sweep refusals (path.join name) full node
              = disk.holding place (.dir mode (done ++ keptEntry path (name, node) ++ rest)))
    : SweptAs refusals node := by
  intro disk path place old mode done rest name held sturdy valid absent
  have leads := sturdy.holding held (done ++ (name, node) :: rest)
  rw [sweepEntry, if_pos (isDeletable_join valid)]
  by_cases long : longestPath < (path.join name).length
  · rw [sweep_of_error (leads.status_join_of_long valid long), keptEntry,
      Node.remains_of_long long]
    simp
  · exact swept held sturdy valid absent (Nat.not_lt.mp long) rfl leads
      (holding_middle held absent)

/-- A sound node is swept to what is left of it, whatever stands around it. By induction on the
tree: a directory is swept entry by entry, and is removed when nothing is left in it.
-/
theorem sweptAs_of_sound (opens : refusals.openDirectory = false)
    (reads : refusals.readDirectory = false) (sound : node.Sound)
    : SweptAs refusals node := by
  induction sound with
  | special =>
      refine sweptAs_of_fitting ?_
      rintro disk _ path place old mode done rest name held sturdy valid absent fits rfl _ _
      rw [sweep]
      simp [keptEntry, Node.remains]
  | file | link =>
      refine sweptAs_of_fitting ?_
      rintro disk _ path place old mode done rest name held sturdy valid absent fits rfl leads found
      simp only [sweep, leads.status_join valid found fits,
        leads.removeFile_join valid found fits rfl, removeAt_holding held absent, keptEntry,
        Node.remains, if_neg (Nat.not_lt.mpr fits)]
      simp
  | @dir inner entries names distinct sound ih =>
      refine sweptAs_of_fitting ?_
      rintro disk full path place old mode done rest name held sturdy valid absent fits rfl leads
        found
      have emptied := sturdy.holding held (done ++ (name, .dir inner []) :: rest)
      have swept
          : sweepEntries refusals (path.join name)
                (disk.holding place (.dir mode (done ++ (name, .dir inner entries) :: rest)))
                entries
              = disk.holding place
                  (.dir mode
                    (done ++ (name, .dir inner (kept (path.join name) entries)) :: rest)) := by
        have sturdy_inside
            : ((disk.holding place (.dir mode (done ++ (name, .dir inner entries) :: rest))).holding
                (place ++ [name]) (.dir inner [])).Leads (path.join name) (place ++ [name]) := by
          rw [holding_holding held absent]
          exact emptied.join valid (holding_middle held absent)
        have onward := sweepEntries_eq [] entries found sturdy_inside names distinct
          (fun _ _ => List.not_mem_nil) ih
        simpa [holding_holding held absent] using onward
      rw [sweep, leads.status_join valid found fits]
      simp only [opens, reads, Bool.false_eq_true, or_self, if_false, swept]
      have after := sturdy.holding held
        (done ++ (name, .dir inner (kept (path.join name) entries)) :: rest)
      have there
          : (disk.holding place
                (.dir mode
                  (done ++ (name, .dir inner (kept (path.join name) entries)) :: rest))).root.get?
              (place ++ [name])
            = some (.dir inner (kept (path.join name) entries)) := holding_middle held absent
      rw [keptEntry, Node.remains_dir (Nat.not_lt.mpr fits)]
      by_cases nothing : kept (path.join name) entries = []
      · rw [after.removeFile_join valid there fits nothing, removeAt_holding held absent,
          if_pos nothing]
        simp
      · rw [after.removeFile_join_of_full valid there fits nothing, if_neg nothing]
        simp

-----------------------------------------------------------------------------------------
-- Emptying
-----------------------------------------------------------------------------------------

/-- At a path that is not refused, the directory keeps what is left of its entries, and nothing
else changes.
-/
theorem deleteContents_eq_of_deletable {entries : List (Name × Node)} (sound : disk.root.Sound)
    (opens : refusals.openDirectory = false) (reads : refusals.readDirectory = false)
    (deletable : isDeletable path = true)
    (found : disk.lookUp path false = .ok (place, .dir mode entries))
    (sturdy : (disk.holding place (.dir mode [])).lookUp path false = .ok (place, .dir mode []))
    : disk.deleteContents refusals path
      = (.ok (), disk.holding place (.dir mode (kept path entries))) := by
  obtain ⟨held, _⟩ := leads_of_lookUp found rfl
  obtain ⟨_, leads⟩ := leads_of_lookUp sturdy rfl
  have looked : disk.status path = .ok (.dir mode entries) := by
    rw [status, found]
    rfl
  have swept : sweepEntries refusals path disk entries
      = disk.holding place (.dir mode (kept path entries)) := by
    cases sound.of_get? held with
    | dir _ names distinct each =>
        have onward := sweepEntries_eq [] entries held leads names distinct
          (fun _ _ => List.not_mem_nil)
          (fun entry member => sweptAs_of_sound opens reads (each entry member))
        rwa [List.nil_append, List.nil_append, holding, Node.graft_self held] at onward
  rw [deleteContents, deletable, looked]
  simp [opens, reads, swept]

/-- A directory at a path that ends in a name keeps what is left of its entries. -/
theorem deleteContents_eq {entries : List (Name × Node)} (sound : disk.root.Sound)
    (opens : refusals.openDirectory = false) (reads : refusals.readDirectory = false)
    (not_dot : lastStep path ≠ .dot) (not_dotDot : lastStep path ≠ .dotDot)
    (found : disk.lookUp path false = .ok (place, .dir mode entries))
    (sturdy : (disk.holding place (.dir mode [])).lookUp path false = .ok (place, .dir mode []))
    : disk.deleteContents refusals path
      = (.ok (), disk.holding place (.dir mode (kept path entries))) :=
  deleteContents_eq_of_deletable sound opens reads (isDeletable_of_lastStep not_dot not_dotDot)
    found sturdy

/-- Emptying a directory succeeds and leaves the directory at its path. Everything that is not
below it is by itself what it was, and below it survive, as they were, exactly the nodes that
hold something that cannot be deleted: a special file, or what stands at a path that is too
long to be used. If there is none, the directory is empty.

The path has to lead to the directory for as long as entries are deleted, and so even when the
directory is empty: it must not go through what it is to delete.
-/
theorem deleteContents_keeps_stuck {entries : List (Name × Node)} (sound : disk.root.Sound)
    (opens : refusals.openDirectory = false) (reads : refusals.readDirectory = false)
    (not_dot : lastStep path ≠ .dot) (not_dotDot : lastStep path ≠ .dotDot)
    (found : disk.lookUp path false = .ok (place, .dir mode entries))
    (sturdy : (disk.holding place (.dir mode [])).lookUp path false = .ok (place, .dir mode []))
    : ∃ after left,
        disk.deleteContents refusals path = (.ok (), after)
        ∧ after.working = disk.working
        ∧ after.lookUp path false = .ok (place, .dir mode left)
        ∧ (∀ other,
            (¬ place <+: other ∨ other = place)
            → (after.root.get? other).map own = (disk.root.get? other).map own)
        ∧ (∀ below node,
            below ≠ []
            → ((after.root.get? (place ++ below)).map own = some node
                ↔ ∃ held,
                    disk.root.get? (place ++ below) = some held
                    ∧ held.own = node
                    ∧ StuckWithin (path.through below) held))
        ∧ ((∀ below held,
              below ≠ []
              → disk.root.get? (place ++ below) = some held
              → ¬ Stuck (path.through below) held)
            → left = []) := by
  obtain ⟨held, _⟩ := leads_of_lookUp found rfl
  have directory := sound.of_get? held
  have inside : ∀ below, disk.root.get? (place ++ below) = (Node.dir mode entries).get? below := by
    intro below
    have same := Node.get?_graft held (.dir mode entries) below
    rwa [Node.graft_self held] at same
  refine ⟨disk.holding place (.dir mode (kept path entries)), kept path entries,
    deleteContents_eq sound opens reads not_dot not_dotDot found sturdy, rfl, ?_, ?_, ?_, ?_⟩
  · have here := holding_get? held (.dir mode (kept path entries)) []
    rw [List.append_nil] at here
    exact lookUp_mono sturdy rfl rfl (Node.graft_within held rfl) here
  · rintro other (elsewhere | rfl)
    · exact Node.own_get?_graft _ _ elsewhere
    · have here := holding_get? held (.dir mode (kept path entries)) []
      rw [List.append_nil] at here
      rw [here, held]
      rfl
  · intro below node proper
    rw [holding_get? held, inside]
    exact directory.own_get?_kept proper node
  · intro none_stuck
    cases some_left : kept path entries with
    | nil => rfl
    | cons first more =>
        have survives
            : ((Node.dir mode (kept path entries)).get? [first.1]).map own
              = some first.2.own := by
          rw [Node.get?, some_left, Node.child?_cons_self]
          rfl
        obtain ⟨child, reached, _, below, last, onward, stuck⟩ :=
          (directory.own_get?_kept (List.cons_ne_nil _ _) _).mp survives
        refine absurd stuck (none_stuck (first.1 :: below) last (List.cons_ne_nil _ _) ?_)
        rw [Node.get?, Option.bind_eq_some_iff] at reached
        obtain ⟨same, here, rest⟩ := reached
        obtain rfl := Option.some.inj rest
        rw [inside, Node.get?, here, Option.bind_some, onward]

/-- A directory with a file, a link that leads out of it, and a directory that holds a special
file beside another one.
-/
def strewn : Disk where
  root :=
    .dir 0o755 [
      (Text.bytes "a", .dir 0o700 [
        (Text.bytes "f", .file 0o644 [1]),
        (Text.bytes "l", .link (Text.bytes "o")),
        (Text.bytes "d", .dir 0o755 [
          (Text.bytes "s", .special),
          (Text.bytes "g", .file 0o644 [])])]),
      (Text.bytes "o", .dir 0o755 [(Text.bytes "h", .file 0o644 [2])])]
  working := []

theorem strewn_sound : strewn.root.Sound := by
  repeat'
    first
    | exact .file _ _
    | exact .link _
    | exact .special
    | refine .dir _ (by decide +kernel) (by decide +kernel) ?_
    | refine List.forall_mem_cons.mpr ⟨?_, ?_⟩
    | exact List.forall_mem_nil _

theorem deleteContents_keeps_stuck_of_strewn_directory
    : ∃ after left,
        strewn.deleteContents {} (Text.bytes "a") = (.ok (), after)
        ∧ after.lookUp (Text.bytes "a") false = .ok ([Text.bytes "a"], .dir 0o700 left)
        ∧ (after.root.get? [Text.bytes "o", Text.bytes "h"]).map own = some (.file 0o644 [2])
        ∧ (after.root.get? [Text.bytes "a", Text.bytes "d", Text.bytes "s"]).map own
          = some .special := by
  obtain ⟨after, left, emptied, _, there, elsewhere, survivors, _⟩ :=
    @deleteContents_keeps_stuck strewn (Text.bytes "a") [Text.bytes "a"] 0o700 {} _ strewn_sound
      rfl rfl (by decide +kernel) (by decide +kernel) (by cbv) (by cbv)
  refine ⟨after, left, emptied, there, ?_, ?_⟩
  · rw [elsewhere _ (Or.inl (by decide +kernel))]
    cbv
  · refine (survivors [Text.bytes "d", Text.bytes "s"] .special (List.cons_ne_nil _ _)).mpr ?_
    exact ⟨.special, by cbv, rfl, [], .special, rfl, Or.inl rfl⟩

/-- A directory whose only entry holds another directory. -/
def nested : Disk where
  root :=
    .dir 0o755 [
      (Text.bytes "a", .dir 0o755 [
        (Text.bytes "x", .dir 0o755 [(Text.bytes "b", .dir 0o755 [])])])]
  working := []

theorem nested_sound : nested.root.Sound := by
  repeat'
    first
    | refine .dir _ (by decide +kernel) (by decide +kernel) ?_
    | refine List.forall_mem_cons.mpr ⟨?_, ?_⟩
    | exact List.forall_mem_nil _

/-- A path that goes through what is to be deleted leads nowhere any more when the first of it
is gone. The entries that are left count as gone too, and the directory is not emptied.
-/
theorem deleteContents_keeps_entry_on_own_path
    : nested.root.Sound
      ∧ lastStep (Text.bytes "a/x/b/../../../a") = .name
      ∧ nested.lookUp (Text.bytes "a/x/b/../../../a") false
        = .ok (
            [Text.bytes "a"],
            .dir 0o755 [(Text.bytes "x", .dir 0o755 [(Text.bytes "b", .dir 0o755 [])])])
      ∧ (∀ place, nested.root.get? place ≠ some .special)
      ∧ nested.deleteContents {} (Text.bytes "a/x/b/../../../a")
        = (
            .ok (),
            {
              root :=
                .dir 0o755 [
                  (Text.bytes "a", .dir 0o755 [(Text.bytes "x", .dir 0o755 [])])]
              working := []
            }) := by
  refine ⟨nested_sound, by decide +kernel, by cbv, ?_, by cbv⟩
  intro place special
  obtain ⟨left, left_over⟩ :=
    nested_sound.stuckWithin_iff.mp ⟨place, .special, special, Or.inl rfl⟩
  have nothing_left : nested.root.remains [] = none := by cbv
  rw [nothing_left] at left_over
  cases left_over

end Disk

end CrashCapture.Files
