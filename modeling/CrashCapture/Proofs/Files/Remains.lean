import CrashCapture.Proofs.Files.Grafting
import CrashCapture.Proofs.Files.PathEntries

/-! What is left of a tree when everything in it is deleted that can be: special files, what
stands at a path that is too long to be used, and the directories that hold any of these.
-/

namespace CrashCapture.Files.Node

/-- In every directory the entries have names, each its own. -/
inductive Sound : Node → Prop where
  | file (mode : Nat) (data : List UInt8) : Sound (.file mode data)
  | link (target : Path) : Sound (.link target)
  | special : Sound .special
  | dir (mode : Nat) {entries : List (Name × Node)}
      (names : ∀ entry ∈ entries, Path.IsName entry.1)
      (distinct : (entries.map (·.1)).Nodup) (each : ∀ entry ∈ entries, Sound entry.2)
      : Sound (.dir mode entries)

/-- A node that cannot be deleted for its own sake. -/
def Stuck (path : Path) (node : Node) : Prop := node = .special ∨ longestPath < path.length

/-- The node, or one below it, cannot be deleted. -/
def StuckWithin (path : Path) (node : Node) : Prop :=
  ∃ below found, node.get? below = some found ∧ Stuck (path.through below) found

mutual

/-- What is left of the node at a path. -/
def remains (path : Path) : Node → Option Node
  | .dir mode entries =>
    if longestPath < path.length then some (.dir mode entries)
    else
      match kept path entries with
      | [] => none
      | left :: more => some (.dir mode (left :: more))
  | .special => some .special
  | node => if longestPath < path.length then some node else none

/-- What is left of the entries of the directory at a path. -/
def kept (path : Path) : List (Name × Node) → List (Name × Node)
  | [] => []
  | entry :: rest => keptEntry path entry ++ kept path rest

def keptEntry (path : Path) : Name × Node → List (Name × Node)
  | (name, node) => ((remains (path.join name) node).map fun left => (name, left)).toList

end

-----------------------------------------------------------------------------------------
-- Entries
-----------------------------------------------------------------------------------------

variable {path : Path} {node left : Node} {mode : Nat} {entries : List (Name × Node)}
  {name : Name}

theorem remains_of_long (long : longestPath < path.length) : node.remains path = some node := by
  cases node <;> simp [remains, long]

theorem remains_dir (short : ¬ longestPath < path.length)
    : (dir mode entries).remains path
      = if kept path entries = [] then none else some (.dir mode (kept path entries)) := by
  rw [remains, if_neg short]
  cases kept path entries <;> rfl

theorem name_of_mem_keptEntry {found : Name × Node} (member : found ∈ keptEntry path (name, node))
    : found.1 = name := by
  obtain ⟨left, _, rfl⟩ : ∃ left, node.remains (path.join name) = some left
      ∧ (name, left) = found := by
    simpa [keptEntry] using member
  rfl

theorem mem_of_child? (found : (dir mode entries).child? name = some node)
    : (name, node) ∈ entries := by
  obtain ⟨⟨first, node⟩, first_found, rfl⟩ := Option.map_eq_some_iff.mp found
  have same : first = name := by simpa using List.find?_some first_found
  exact same ▸ List.mem_of_find?_eq_some first_found

theorem child?_of_not_mem (absent : name ∉ entries.map (·.1))
    : (dir mode entries).child? name = none := by
  refine Option.map_eq_none_iff.mpr (List.find?_eq_none.mpr fun entry member same => absent ?_)
  exact List.mem_map.mpr ⟨entry, member, by simpa using same⟩

/-- What is kept under a name is what is left of the entry of that name, by induction on the
entries.
-/
theorem child?_kept (path : Path) (mode : Nat) (name : Name)
    (distinct : (entries.map (·.1)).Nodup)
    : (dir mode (kept path entries)).child? name
      = ((dir mode entries).child? name).bind (remains (path.join name)) := by
  induction entries with
  | nil => rfl
  | cons entry rest ih =>
      obtain ⟨first, node⟩ := entry
      obtain ⟨other, distinct⟩ := List.nodup_cons.mp distinct
      rw [kept, keptEntry]
      by_cases same : first = name
      · obtain rfl := same
        rw [child?_cons_self, Option.bind_some]
        cases node.remains (path.join first) with
        | none =>
            rw [Option.map_none, Option.toList_none, List.nil_append, ih distinct,
              child?_of_not_mem other, Option.bind_none]
        | some left => exact child?_cons_self ..
      · rw [child?_cons_of_ne mode rest same, ← ih distinct]
        cases node.remains (path.join first) with
        | none => rfl
        | some left => exact child?_cons_of_ne mode _ same

theorem StuckWithin.of_child? (found : (dir mode entries).child? name = some node)
    (stuck : StuckWithin (path.join name) node) : StuckWithin path (dir mode entries) := by
  obtain ⟨below, last, reached, held⟩ := stuck
  refine ⟨name :: below, last, ?_, held⟩
  rw [get?, found, Option.bind_some, reached]

-----------------------------------------------------------------------------------------
-- Survivors
-----------------------------------------------------------------------------------------

/-- A node that is left is by itself what it was. -/
theorem own_of_remains (left_over : node.remains path = some left) : left.own = node.own := by
  cases node with
  | file | link =>
      obtain ⟨_, rfl⟩ : longestPath < path.length ∧ _ = left := by simpa [remains] using left_over
      rfl
  | special =>
      obtain rfl := Option.some.inj left_over
      rfl
  | dir mode entries =>
      by_cases long : longestPath < path.length
      · obtain rfl := Option.some.inj ((remains_of_long long).symm.trans left_over)
        rfl
      · obtain ⟨_, rfl⟩ : ¬ kept path entries = [] ∧ dir mode (kept path entries) = left := by
          simpa [remains_dir long] using left_over
        rfl

/-- What holds something that cannot be deleted, and could be deleted itself, is a directory
with an entry that holds it.
-/
theorem StuckWithin.child (stuck : StuckWithin path node) (short : ¬ longestPath < path.length)
    (deletable : node ≠ .special)
    : ∃ name child, node.child? name = some child ∧ StuckWithin (path.join name) child := by
  obtain ⟨below, last, reached, held⟩ := stuck
  cases below with
  | nil =>
      obtain rfl := Option.some.inj reached
      rcases held with special | long
      · exact absurd special deletable
      · exact absurd long short
  | cons name below =>
      obtain ⟨child, here, inside⟩ := Option.bind_eq_some_iff.mp reached
      exact ⟨name, child, here, below, last, inside, held⟩

/-- A node is left exactly when it holds something that cannot be deleted. By induction on the
tree: what is stuck below a directory is so in one of its entries, and an entry that is left
keeps the directory.
-/
theorem Sound.stuckWithin_iff (sound : node.Sound)
    : StuckWithin path node ↔ ∃ left, node.remains path = some left := by
  induction sound generalizing path with
  | special => exact iff_of_true ⟨[], .special, rfl, Or.inl rfl⟩ ⟨.special, rfl⟩
  | file | link =>
      by_cases long : longestPath < path.length
      · exact iff_of_true ⟨[], _, rfl, Or.inr long⟩ ⟨_, remains_of_long long⟩
      · refine iff_of_false (fun stuck => ?_) (by simp [remains, long])
        obtain ⟨name, child, here, _⟩ := stuck.child long (by simp)
        cases here
  | @dir mode entries names distinct each ih =>
      by_cases long : longestPath < path.length
      · exact iff_of_true ⟨[], _, rfl, Or.inr long⟩ ⟨_, remains_of_long long⟩
      rw [remains_dir long]
      constructor
      · intro stuck
        obtain ⟨name, child, here, inside⟩ := stuck.child long (by simp)
        obtain ⟨left, left_over⟩ := (ih _ (mem_of_child? here)).mp inside
        have found := child?_kept path mode name distinct
        rw [here, Option.bind_some, left_over] at found
        have some_kept : kept path entries ≠ [] := by
          intro nothing
          rw [nothing] at found
          cases found
        exact ⟨_, if_neg some_kept⟩
      · rintro ⟨left, left_over⟩
        cases some_kept : kept path entries with
        | nil => simp [some_kept] at left_over
        | cons first more =>
            have found := child?_kept path mode first.1 distinct
            rw [some_kept, child?_cons_self] at found
            obtain ⟨child, here, remain⟩ := Option.bind_eq_some_iff.mp found.symm
            exact .of_child? here ((ih _ (mem_of_child? here)).mpr ⟨_, remain⟩)

/-- Everything in a sound tree is sound, by induction on the place. -/
theorem Sound.of_get? (sound : node.Sound) {place : Place} {found : Node}
    (reached : node.get? place = some found) : found.Sound := by
  induction place generalizing node with
  | nil => exact Option.some.inj reached ▸ sound
  | cons name place ih =>
      obtain ⟨mode, entries, child, rfl, here, inside⟩ := get?_cons_eq_some reached
      cases sound with
      | dir _ names distinct each => exact ih (each _ (mem_of_child? here)) inside

/-- Below a directory that is emptied each node is what is left of the one that was there. By
induction on the place: below an entry that is gone nothing would have been left.
-/
theorem Sound.get?_kept (sound : (Node.dir mode entries).Sound) {below : Place}
    (proper : below ≠ [])
    : (Node.dir mode (kept path entries)).get? below
      = ((Node.dir mode entries).get? below).bind (remains (path.through below)) := by
  induction below generalizing path mode entries with
  | nil => exact absurd rfl proper
  | cons name rest ih =>
      obtain ⟨distinct, each⟩
          : (entries.map (·.1)).Nodup ∧ ∀ entry ∈ entries, entry.2.Sound := by
        cases sound with
        | dir _ names distinct each => exact ⟨distinct, each⟩
      rw [get?, get?, child?_kept _ _ _ distinct]
      cases here : (Node.dir mode entries).child? name with
      | none => rfl
      | some child =>
          have sound := each _ (mem_of_child? here)
          rw [Option.bind_some, Option.bind_some]
          have onward : path.through (name :: rest) = (path.join name).through rest := rfl
          rw [onward]
          cases rest with
          | nil =>
              rw [get?, Option.bind_some]
              exact Option.bind_fun_some _
          | cons next rest =>
              by_cases long : longestPath < (path.join name).length
              · have deep
                    : longestPath < ((path.join name).through (next :: rest)).length :=
                  Nat.lt_of_lt_of_le long (Path.length_le_through _ _)
                rw [remains_of_long long, Option.bind_some]
                cases child.get? (next :: rest) with
                | none => rfl
                | some found => exact (remains_of_long deep).symm
              · cases child with
                | file | link | special => simp [remains, long, get?, child?, Node.entries]
                | dir inner others =>
                    have below
                        : (Node.dir inner (kept (path.join name) others)).get? (next :: rest)
                          = ((Node.dir inner others).get? (next :: rest)).bind
                              (remains ((path.join name).through (next :: rest))) :=
                      ih sound (List.cons_ne_nil _ _)
                    rw [remains_dir long, ← below]
                    split
                    next nothing =>
                      rw [nothing]
                      rfl
                    next => rfl

/-- The survivors below a directory that is emptied are the nodes that hold something that
cannot be deleted, and each is by itself what it was.
-/
theorem Sound.own_get?_kept (sound : (Node.dir mode entries).Sound) {below : Place}
    (proper : below ≠ []) (node : Node)
    : ((Node.dir mode (kept path entries)).get? below).map own = some node
      ↔ ∃ found,
          (Node.dir mode entries).get? below = some found
          ∧ found.own = node
          ∧ StuckWithin (path.through below) found := by
  rw [sound.get?_kept proper, Option.map_bind]
  constructor
  · intro survives
    obtain ⟨found, reached, same⟩ := Option.bind_eq_some_iff.mp survives
    obtain ⟨left, left_over, rfl⟩ := Option.map_eq_some_iff.mp same
    exact ⟨found, reached, (own_of_remains left_over).symm,
      (sound.of_get? reached).stuckWithin_iff.mpr ⟨left, left_over⟩⟩
  · rintro ⟨found, reached, rfl, stuck⟩
    obtain ⟨left, left_over⟩ := (sound.of_get? reached).stuckWithin_iff.mp stuck
    rw [reached, Option.bind_some, Function.comp_apply, left_over, Option.map_some,
      own_of_remains left_over]

end CrashCapture.Files.Node
