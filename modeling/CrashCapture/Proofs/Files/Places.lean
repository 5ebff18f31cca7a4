import CrashCapture.Files.Disk

/-! Places in a tree. What is put at a place whose directory is there can be found there, and a
file that was just created is an empty one at its place.
-/

namespace CrashCapture.Files

namespace Node

variable {root node : Node} {place : Place} {name : Name}

/-- The entry that a change leaves is found under its name, by induction on the entries. -/
theorem find?_alterEntry {change : Option Node → Option Node} {entries : List (Name × Node)}
    (changed : change ((entries.find? (fun entry => entry.1 = name)).map (·.2)) = some node)
    : ((alterEntry change name entries).find? (fun entry => entry.1 = name)).map (·.2)
      = some node := by
  induction entries with
  | nil =>
      have made : change none = some node := changed
      simp [alterEntry, made]
  | cons entry rest ih =>
      by_cases same : entry.1 = name
      · rw [List.find?_cons_of_pos (by simpa using same)] at changed
        have made : change (some entry.2) = some node := changed
        simp [alterEntry, same, made]
      · rw [List.find?_cons_of_neg (by simpa using same)] at changed
        rw [alterEntry, if_neg same, List.find?_cons_of_neg (by simpa using same)]
        exact ih changed

/-- Only a directory has entries. -/
theorem eq_dir_of_child? {child : Node} (found : root.child? name = some child)
    : ∃ mode entries, root = .dir mode entries := by
  cases root with
  | dir mode entries => exact ⟨mode, entries, rfl⟩
  | file | link | special => cases found

theorem get?_append (root : Node) (place : Place) (name : Name)
    : root.get? (place ++ [name]) = (root.get? place).bind (·.child? name) := by
  induction place generalizing root with
  | nil =>
      rw [List.nil_append, get?, get?, Option.bind_some]
      cases root.child? name <;> rfl
  | cons step place ih =>
      rw [List.cons_append, get?, get?, Option.bind_assoc]
      exact congrArg _ (funext ih)

/-- What is put into a directory that is there is found in it, by induction on the place of the
directory.
-/
theorem get?_put {mode : Nat} {entries : List (Name × Node)}
    (directory : root.get? place = some (.dir mode entries))
    : (root.put (place ++ [name]) node).get? (place ++ [name]) = some node := by
  induction place generalizing root with
  | nil =>
      obtain rfl : root = .dir mode entries := Option.some.inj directory
      have changed
          : ((alterEntry (fun _ => some node) name entries).find?
              (fun entry => entry.1 = name)).map (·.2) = some node := find?_alterEntry rfl
      simp [put, alter, get?, child?, Node.entries, changed]
  | cons step place ih =>
      rw [get?, Option.bind_eq_some_iff] at directory
      obtain ⟨child, found, below⟩ := directory
      obtain ⟨outer, others, rfl⟩ := eq_dir_of_child? found
      have onward := ih below
      obtain ⟨first, rest, more⟩ : ∃ first rest, place ++ [name] = first :: rest :=
        List.exists_cons_of_ne_nil (by simp)
      have inner
          : (fun below : Option Node =>
                below.map (alter (fun _ => some node) (place ++ [name])))
              ((others.find? (fun entry => entry.1 = step)).map (·.2))
            = some (child.put (place ++ [name]) node) := by
        have held : (others.find? (fun entry => entry.1 = step)).map (·.2) = some child := found
        rw [held]
        rfl
      have outside
          : ((dir outer others).put (step :: (place ++ [name])) node).child? step
            = some (child.put (place ++ [name]) node) := by
        have entry := find?_alterEntry inner
        rw [more] at entry ⊢
        exact entry
      rw [List.cons_append, get?, outside]
      exact onward

/-- What stands at a place can be replaced there. -/
theorem get?_put_of_get? {old : Node} (found : root.get? (place ++ [name]) = some old)
    : (root.put (place ++ [name]) node).get? (place ++ [name]) = some node := by
  rw [get?_append, Option.bind_eq_some_iff] at found
  obtain ⟨directory, here, entry⟩ := found
  obtain ⟨mode, entries, rfl⟩ := eq_dir_of_child? entry
  exact get?_put here

end Node

/-- A path that lacks its last entry leads to the directory that lacks it, by induction along
the walk.
-/
theorem walk_missing {root : Node} {follow : Bool} {links : Nat} {place directory : Place}
    {steps : List Name} {name : Name}
    (ends : walk root follow links place steps = .ok (.missing directory name))
    : ∃ mode entries, root.get? directory = some (.dir mode entries) := by
  fun_induction walk root follow links place steps with
  | case1 | case2 | case3 | case4 | case5 | case9 | case10 | case11 => cases ends
  | case6 | case7 | case12 | case13 => next onward => exact onward ends
  | case8 links place name isDir =>
      obtain ⟨rfl, rfl⟩ := Found.missing.inj (Except.ok.inj ends)
      cases here : root.get? place with
      | none => simp [here] at isDir
      | some found =>
          cases found with
          | dir mode entries => exact ⟨mode, entries, rfl⟩
          | file | link | special => simp [here, Node.isDir] at isDir

theorem Disk.locateEntry_missing {disk : Disk} {path : Path} {directory : Place} {name : Name}
    (found : disk.locateEntry path = .ok (.missing directory name))
    : ∃ mode entries, disk.root.get? directory = some (.dir mode entries) := by
  unfold locateEntry locateSteps at found
  split at found
  · cases found
  · split at found
    · cases found
    · split at found
      · cases found
      · cases walked
            : walk disk.root false linkLimit (if path.isAbsolute then [] else disk.working)
                path.entries with
        | error errno => rw [walked] at found; cases found
        | ok reached =>
            obtain rfl : reached = .missing directory name := by
              rw [walked] at found
              exact Except.ok.inj found
            exact walk_missing walked

/-- A new file is an empty one at its place. -/
theorem Disk.createNew_ok {disk after : Disk} {path : Path} {mode : Nat} {place : Place}
    (created : disk.createNew path mode = .ok (place, after))
    : ∃ directory name,
        place = directory ++ [name]
        ∧ after.root.get? place = some (.file mode []) := by
  unfold createNew at created
  split at created
  · cases found : disk.locateSteps path path.entries.dropLast true <;>
      simp [found, bind, Except.bind] at created
  · cases found : disk.locateEntry path with
    | error errno => simp [found, bind, Except.bind] at created
    | ok reached =>
        cases reached with
        | node place node => simp [found, bind, Except.bind] at created
        | missing directory name =>
            simp only [found, bind, Except.bind, pure, Except.pure, Except.ok.injEq,
              Prod.mk.injEq] at created
            obtain ⟨rfl, rfl⟩ := created
            obtain ⟨_, _, here⟩ := locateEntry_missing found
            exact ⟨directory, name, rfl, Node.get?_put here⟩

/-- What is put into a file is what it holds then. -/
theorem Disk.setData_get? {disk : Disk} {directory : Place} {name : Name} {mode : Nat}
    {old : List UInt8} (found : disk.root.get? (directory ++ [name]) = some (.file mode old))
    (data : List UInt8)
    : (disk.setData (directory ++ [name]) data).root.get? (directory ++ [name])
      = some (.file mode data) := by
  rw [setData, found]
  exact Node.get?_put_of_get? found

end CrashCapture.Files
