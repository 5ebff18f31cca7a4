import CrashCapture.Proofs.Files.Places

/-! Trees with another node at one place. Below the place stands the new node; everywhere else
each node is by itself what it was. Grafting at places along one path composes, and removing
an entry is grafting its directory without it.
-/

namespace CrashCapture.Files.Node

variable {root node new old : Node} {place : Place} {name : Name} {mode : Nat}
  {entries : List (Name × Node)}

/-- What a node is by itself: a directory without its entries. -/
def own : Node → Node
  | .dir mode _ => .dir mode []
  | node => node

/-- The tree with another node at a place that is there, which may be the root. -/
def graft : Node → Place → Node → Node
  | _, [], new => new
  | .dir mode entries, name :: place, new =>
    .dir mode (alterEntry (Option.map (graft · place new)) name entries)
  | node, _ :: _, _ => node

-----------------------------------------------------------------------------------------
-- Entries of one directory
-----------------------------------------------------------------------------------------

@[simp]
theorem child?_cons_self (mode : Nat) (name : Name) (node : Node) (rest : List (Name × Node))
    : (dir mode ((name, node) :: rest)).child? name = some node := by
  simp [child?, Node.entries]

theorem child?_cons_of_ne (mode : Nat) {entry : Name × Node} (rest : List (Name × Node))
    (other : entry.1 ≠ name)
    : (dir mode (entry :: rest)).child? name = (dir mode rest).child? name := by
  simp [child?, Node.entries, other]

/-- A changed entry is found changed, by induction on the entries. -/
theorem child?_alterEntry (mode : Nat) (change : Node → Node) (name : Name)
    (entries : List (Name × Node))
    : (dir mode (alterEntry (Option.map change) name entries)).child? name
      = ((dir mode entries).child? name).map change := by
  induction entries with
  | nil => rfl
  | cons entry rest ih =>
      by_cases same : entry.1 = name
      · obtain rfl := same
        rw [alterEntry, if_pos rfl, child?_cons_self]
        exact child?_cons_self ..
      · rw [alterEntry, if_neg same, child?_cons_of_ne mode _ same, ih,
          child?_cons_of_ne mode _ same]

/-- The other entries are found as they were, by induction on the entries. -/
theorem child?_alterEntry_of_ne (mode : Nat) (change : Option Node → Option Node) {other : Name}
    (entries : List (Name × Node)) (different : name ≠ other)
    : (dir mode (alterEntry change name entries)).child? other
      = (dir mode entries).child? other := by
  induction entries with
  | nil =>
      rw [alterEntry]
      cases change none with
      | none => rfl
      | some made => exact child?_cons_of_ne mode [] different
  | cons entry rest ih =>
      by_cases same : entry.1 = name
      · rw [alterEntry, if_pos same, child?_cons_of_ne mode rest (same ▸ different)]
        cases change (some entry.2) with
        | none => rfl
        | some made => exact child?_cons_of_ne mode rest different
      · rw [alterEntry, if_neg same]
        by_cases here : entry.1 = other
        · obtain rfl := here
          rw [child?_cons_self, child?_cons_self]
        · rw [child?_cons_of_ne mode _ here, child?_cons_of_ne mode _ here, ih]

/-- Only what a change makes of the entry there counts, by induction on the entries. -/
theorem alterEntry_congr {first second : Node → Node} {child : Node}
    (here : (dir mode entries).child? name = some child) (agree : first child = second child)
    : alterEntry (Option.map first) name entries
      = alterEntry (Option.map second) name entries := by
  induction entries with
  | nil => rfl
  | cons entry rest ih =>
      by_cases same : entry.1 = name
      · obtain rfl := same
        obtain rfl := Option.some.inj ((child?_cons_self ..).symm.trans here)
        simp [alterEntry, agree]
      · rw [alterEntry, alterEntry, if_neg same, if_neg same]
        rw [child?_cons_of_ne mode rest same] at here
        rw [ih here]

theorem alterEntry_id (name : Name) (entries : List (Name × Node))
    : alterEntry (Option.map id) name entries = entries := by
  induction entries with
  | nil => rfl
  | cons entry rest ih =>
      by_cases same : entry.1 = name
      · obtain rfl := same
        rw [alterEntry, if_pos rfl]
        rfl
      · rw [alterEntry, if_neg same, ih]

/-- Changes of one entry follow each other. -/
theorem alterEntry_alterEntry (change : Option Node → Option Node) (first : Node → Node)
    (name : Name) (entries : List (Name × Node))
    : alterEntry change name (alterEntry (Option.map first) name entries)
      = alterEntry (fun found => change (found.map first)) name entries := by
  induction entries with
  | nil => rfl
  | cons entry rest ih =>
      by_cases same : entry.1 = name
      · obtain rfl := same
        simp [alterEntry]
      · rw [alterEntry, if_neg same, alterEntry, if_neg same, ih, alterEntry, if_neg same]

-----------------------------------------------------------------------------------------
-- Places
-----------------------------------------------------------------------------------------

/-- A place that starts with a name lies in a directory. -/
theorem get?_cons_eq_some {step : Name} (found : root.get? (step :: place) = some node)
    : ∃ mode entries child,
        root = .dir mode entries
        ∧ (dir mode entries).child? step = some child
        ∧ child.get? place = some node := by
  rw [get?, Option.bind_eq_some_iff] at found
  obtain ⟨child, here, below⟩ := found
  obtain ⟨mode, entries, rfl⟩ := eq_dir_of_child? here
  exact ⟨mode, entries, child, rfl, here, below⟩

/-- Below the place stands the new node, by induction on the place. -/
theorem get?_graft (held : root.get? place = some old) (new : Node) (below : Place)
    : (root.graft place new).get? (place ++ below) = new.get? below := by
  induction place generalizing root with
  | nil => rfl
  | cons step place ih =>
      obtain ⟨mode, entries, child, rfl, here, inner⟩ := get?_cons_eq_some held
      rw [graft, List.cons_append, get?, child?_alterEntry, here, Option.map_some,
        Option.bind_some, ih inner]

/-- Elsewhere every node is by itself what it was, by induction on the place. -/
theorem own_get?_graft (root new : Node) {other : Place} (elsewhere : ¬ place <+: other)
    : ((root.graft place new).get? other).map own = (root.get? other).map own := by
  induction place generalizing root other with
  | nil => exact absurd List.nil_prefix elsewhere
  | cons step place ih =>
      cases root with
      | file | link | special => rfl
      | dir mode entries =>
          cases other with
          | nil => rfl
          | cons next other =>
              rw [graft, get?, get?]
              by_cases same : step = next
              · obtain rfl := same
                rw [child?_alterEntry]
                cases (dir mode entries).child? step with
                | none => rfl
                | some child =>
                    exact ih child fun inside => elsewhere (List.cons_prefix_cons.mpr ⟨rfl, inside⟩)
              · rw [child?_alterEntry_of_ne mode _ entries same]

/-- What is grafted below a graft is grafted into it, by induction on the place. -/
theorem graft_graft (held : root.get? place = some old) (new : Node) (below : Place)
    (inner : Node)
    : (root.graft place new).graft (place ++ below) inner
      = root.graft place (new.graft below inner) := by
  induction place generalizing root with
  | nil => rfl
  | cons step place ih =>
      obtain ⟨mode, entries, child, rfl, here, inside⟩ := get?_cons_eq_some held
      simp only [List.cons_append, graft]
      rw [alterEntry_alterEntry]
      simp only [Option.map_map]
      exact congrArg _ (alterEntry_congr here (ih inside))

/-- Grafting what stands there changes nothing, by induction on the place. -/
theorem graft_self (held : root.get? place = some node) : root.graft place node = root := by
  induction place generalizing root with
  | nil => exact (Option.some.inj held).symm
  | cons step place ih =>
      obtain ⟨mode, entries, child, rfl, here, inside⟩ := get?_cons_eq_some held
      rw [graft]
      have same : alterEntry (Option.map (graft · place node)) step entries
          = alterEntry (Option.map id) step entries := alterEntry_congr here (ih inside)
      rw [same, alterEntry_id]

/-- Removing an entry leaves its directory without it, by induction on the place. -/
theorem remove_eq_graft (held : root.get? place = some (.dir mode entries))
    : root.remove (place ++ [name])
      = root.graft place (.dir mode (alterEntry (fun _ => none) name entries)) := by
  induction place generalizing root with
  | nil =>
      obtain rfl : root = .dir mode entries := Option.some.inj held
      rfl
  | cons step place ih =>
      obtain ⟨outer, others, child, rfl, here, inside⟩ := get?_cons_eq_some held
      obtain ⟨first, rest, more⟩ : ∃ first rest, place ++ [name] = first :: rest :=
        List.exists_cons_of_ne_nil (by simp)
      have step_down
          : remove (.dir outer others) (step :: (place ++ [name]))
            = .dir outer
                (alterEntry (Option.map (remove · (place ++ [name]))) step others) := by
        rw [more]
        rfl
      rw [List.cons_append, step_down, graft]
      exact congrArg _ (alterEntry_congr here (ih inside))

end CrashCapture.Files.Node
