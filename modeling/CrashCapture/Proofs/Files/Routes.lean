import CrashCapture.Proofs.Files.Grafting
import CrashCapture.Proofs.Files.PathEntries

/-! Routes that paths take through a tree. A route that reaches its target in a tree reaches it
in every larger one, and a path that leads to a directory leads on to each of its entries.
-/

namespace CrashCapture.Files

/-- The steps lead from one place to another, through directories, and leave some of the links
that may be followed. A link that comes last is followed only when asked for.
-/
inductive Leads (root : Node) (follow : Bool)
    : Nat → Place → List Name → Place → Nat → Prop where
  | here (links : Nat) (place : Place) : Leads root follow links place [] place links
  | stay {links left : Nat} {place target : Place} {steps : List Name}
      (inside : (root.get? place).map Node.isDir = some true)
      (onward : Leads root follow links place steps target left)
      : Leads root follow links place (Path.dot :: steps) target left
  | up {links left : Nat} {place target : Place} {steps : List Name}
      (inside : (root.get? place).map Node.isDir = some true)
      (onward : Leads root follow links place.dropLast steps target left)
      : Leads root follow links place (Path.dotDot :: steps) target left
  | enter {links left : Nat} {place target : Place} {steps : List Name} {name : Name} {node : Node}
      (inside : (root.get? place).map Node.isDir = some true)
      (short : name.length ≤ longestName) (not_dot : name ≠ Path.dot)
      (not_dotDot : name ≠ Path.dotDot)
      (found : root.get? (place ++ [name]) = some node) (no_link : ∀ goal, node ≠ .link goal)
      (onward : Leads root follow links (place ++ [name]) steps target left)
      : Leads root follow links place (name :: steps) target left
  | along {links left : Nat} {place target : Place} {steps : List Name} {name : Name}
      {goal : Path} (inside : (root.get? place).map Node.isDir = some true)
      (short : name.length ≤ longestName) (not_dot : name ≠ Path.dot)
      (not_dotDot : name ≠ Path.dotDot)
      (found : root.get? (place ++ [name]) = some (.link goal))
      (followed : steps ≠ [] ∨ follow = true)
      (onward
        : Leads root follow links (if goal.isAbsolute then [] else place) (goal.steps ++ steps)
            target left)
      : Leads root follow (links + 1) place (name :: steps) target left

namespace Leads

variable {root : Node} {follow : Bool} {links left : Nat} {place target : Place}
  {steps : List Name}

/-- A walk goes along the route and then its remaining steps, by induction on the route. -/
theorem walk_append (route : Leads root follow links place steps target left)
    (rest : List Name) (last : Bool)
    (follows : follow = true → rest ≠ [] ∨ last = true)
    : walk root last links place (steps ++ rest) = walk root last left target rest := by
  induction route with
  | here => rfl
  | stay inside _ ih =>
      rw [List.cons_append, walk, inside]
      exact ih
  | up inside _ ih =>
      rw [List.cons_append, walk, inside]
      exact ih
  | @enter _ _ _ _ steps name node inside short not_dot not_dotDot found no_link _ ih =>
      rw [List.cons_append, walk, inside, found]
      simp only [Nat.not_lt.mpr short, not_dot, not_dotDot, if_false]
      cases node with
      | link goal => exact absurd rfl (no_link goal)
      | file | dir | special => exact ih
  | @along _ _ _ _ steps _ _ inside short not_dot not_dotDot found followed _ ih =>
      have goes_on : ¬(steps ++ rest = [] ∧ (!last) = true) := by
        rintro ⟨nothing, stops⟩
        obtain ⟨rfl, rfl⟩ := List.append_eq_nil_iff.mp nothing
        have asked := follows (followed.resolve_left fun more => more rfl)
        simp_all
      rw [List.cons_append, walk, inside, found]
      simp only [Nat.not_lt.mpr short, not_dot, not_dotDot, if_false, if_neg goes_on]
      rw [← List.append_assoc]
      exact ih

/-- A route whose steps are all gone ends where it is. -/
theorem walk_eq {node : Node} (route : Leads root false links place steps target left)
    (found : root.get? target = some node)
    : walk root false links place steps = .ok (.node target node) := by
  have whole := route.walk_append [] false (fun asked => nomatch asked)
  rw [List.append_nil] at whole
  rw [whole, walk, found]

/-- A walk that ends at a directory went along a route, by induction along the walk. -/
theorem of_walk {node : Node}
    (reached : walk root follow links place steps = .ok (.node target node))
    (directory : node.isDir = true)
    : root.get? target = some node ∧ ∃ left, Leads root follow links place steps target left := by
  fun_induction walk root follow links place steps with
  | case1 links place node' found =>
      obtain ⟨rfl, rfl⟩ := Found.node.inj (Except.ok.inj reached)
      exact ⟨found, links, .here links place⟩
  | case2 | case3 | case4 | case5 | case9 | case11 => cases reached
  | case8 => cases reached
  | case6 links place steps inside _ ih =>
      obtain ⟨found, left, route⟩ := ih reached
      exact ⟨found, left, .stay inside route⟩
  | case7 links place steps inside _ _ ih =>
      obtain ⟨found, left, route⟩ := ih reached
      exact ⟨found, left, .up inside route⟩
  | case10 =>
      obtain ⟨rfl, rfl⟩ := Found.node.inj (Except.ok.inj reached)
      cases directory
  | case12 place name steps inside short not_dot not_dotDot goal linked goes_on links ih =>
      obtain ⟨found, left, route⟩ := ih reached
      have followed : steps ≠ [] ∨ follow = true := by
        by_cases nothing : steps = []
        · exact Or.inr (by simpa [nothing] using goes_on)
        · exact Or.inl nothing
      exact ⟨found, left,
        .along inside (Nat.not_lt.mp short) not_dot not_dotDot linked followed route⟩
  | case13 links place name steps inside short not_dot not_dotDot node' no_link entry ih =>
      obtain ⟨found, left, route⟩ := ih reached
      exact ⟨found, left,
        .enter inside (Nat.not_lt.mp short) not_dot not_dotDot entry
          (fun goal same => no_link goal same) route⟩

/-- The first of two parts is a route of its own, and follows its last link since steps come
after it. By induction on the route.
-/
theorem split {front rest : List Name}
    (route : Leads root follow links place (front ++ rest) target left)
    : ∃ middle spare,
        Leads root true links place front middle spare
        ∧ Leads root follow spare middle rest target left := by
  generalize whole : front ++ rest = steps at route
  induction route generalizing front with
  | here links place =>
      obtain ⟨rfl, rfl⟩ := List.append_eq_nil_iff.mp whole
      exact ⟨place, links, .here links place, .here links place⟩
  | stay inside onward ih =>
      rcases List.append_eq_cons_iff.mp whole with ⟨rfl, rfl⟩ | ⟨front, rfl, rfl⟩
      · exact ⟨_, _, .here _ _, .stay inside onward⟩
      · obtain ⟨middle, spare, first, second⟩ := ih rfl
        exact ⟨middle, spare, .stay inside first, second⟩
  | up inside onward ih =>
      rcases List.append_eq_cons_iff.mp whole with ⟨rfl, rfl⟩ | ⟨front, rfl, rfl⟩
      · exact ⟨_, _, .here _ _, .up inside onward⟩
      · obtain ⟨middle, spare, first, second⟩ := ih rfl
        exact ⟨middle, spare, .up inside first, second⟩
  | enter inside short not_dot not_dotDot found no_link onward ih =>
      rcases List.append_eq_cons_iff.mp whole with ⟨rfl, rfl⟩ | ⟨front, rfl, rfl⟩
      · exact ⟨_, _, .here _ _, .enter inside short not_dot not_dotDot found no_link onward⟩
      · obtain ⟨middle, spare, first, second⟩ := ih rfl
        exact ⟨middle, spare, .enter inside short not_dot not_dotDot found no_link first, second⟩
  | along inside short not_dot not_dotDot found followed onward ih =>
      rcases List.append_eq_cons_iff.mp whole with ⟨rfl, rfl⟩ | ⟨front, rfl, rfl⟩
      · exact ⟨_, _, .here _ _, .along inside short not_dot not_dotDot found followed onward⟩
      · obtain ⟨middle, spare, first, second⟩ := ih (List.append_assoc ..)
        exact ⟨middle, spare,
          .along inside short not_dot not_dotDot found (Or.inr rfl) first, second⟩

/-- Routes that follow each other make one, by induction on the first. -/
theorem append {front rest : List Name} {middle : Place} {spare : Nat}
    (first : Leads root true links place front middle spare)
    (second : Leads root true spare middle rest target left)
    : Leads root true links place (front ++ rest) target left := by
  induction first with
  | here => exact second
  | stay inside _ ih => exact .stay inside (ih second)
  | up inside _ ih => exact .up inside (ih second)
  | enter inside short not_dot not_dotDot found no_link _ ih =>
      exact .enter inside short not_dot not_dotDot found no_link (ih second)
  | along inside short not_dot not_dotDot found _ _ ih =>
      refine .along inside short not_dot not_dotDot found (Or.inr rfl) ?_
      exact List.append_assoc .. ▸ ih second

end Leads

-----------------------------------------------------------------------------------------
-- Larger trees
-----------------------------------------------------------------------------------------

namespace Node

/-- Whatever stands in one tree stands at the same place in the other, a directory perhaps with
more in it.
-/
def Within (small large : Node) : Prop :=
  ∀ place node, small.get? place = some node → (large.get? place).map own = some node.own

theorem isDir_own (node : Node) : node.own.isDir = node.isDir := by
  cases node <;> rfl

theorem own_eq_link {node : Node} {goal : Path} : node.own = .link goal ↔ node = .link goal := by
  cases node <;> simp [own]

variable {small large : Node}

theorem Within.inside (within : small.Within large) {place : Place}
    (inside : (small.get? place).map isDir = some true)
    : (large.get? place).map isDir = some true := by
  obtain ⟨node, found, directory⟩ := Option.map_eq_some_iff.mp inside
  obtain ⟨other, held, same⟩ := Option.map_eq_some_iff.mp (within place node found)
  rw [held, Option.map_some, ← isDir_own, same, isDir_own, directory]

/-- A directory that is grafted empty stands within the same one with entries. -/
theorem graft_within {root old new : Node} {place : Place} {mode : Nat}
    (held : root.get? place = some old) (same : new.own = .dir mode [])
    : (root.graft place (.dir mode [])).Within (root.graft place new) := by
  intro other node found
  by_cases inside : place <+: other
  · obtain ⟨below, rfl⟩ := inside
    rw [get?_graft held] at found
    rw [get?_graft held]
    cases below with
    | nil =>
        obtain rfl := Option.some.inj found
        exact congrArg some same
    | cons name below => cases found
  · rw [own_get?_graft root new inside, ← own_get?_graft root (.dir mode []) inside, found,
      Option.map_some]

end Node

/-- A route goes the same way in a larger tree, by induction on the route. -/
theorem Leads.mono {small large : Node} {follow : Bool} {links left : Nat}
    {place target : Place} {steps : List Name} (within : small.Within large)
    (route : Leads small follow links place steps target left)
    : Leads large follow links place steps target left := by
  induction route with
  | here links place => exact .here links place
  | stay inside _ ih => exact .stay (within.inside inside) ih
  | up inside _ ih => exact .up (within.inside inside) ih
  | enter inside short not_dot not_dotDot found no_link _ ih =>
      obtain ⟨node, held, same⟩ := Option.map_eq_some_iff.mp (within _ _ found)
      refine .enter (within.inside inside) short not_dot not_dotDot held ?_ ih
      rintro goal rfl
      exact no_link goal (Node.own_eq_link.mp same.symm)
  | along inside short not_dot not_dotDot found followed _ ih =>
      obtain ⟨node, held, same⟩ := Option.map_eq_some_iff.mp (within _ _ found)
      obtain rfl := Node.own_eq_link.mp same
      exact .along (within.inside inside) short not_dot not_dotDot held followed ih

-----------------------------------------------------------------------------------------
-- Paths on a disk
-----------------------------------------------------------------------------------------

namespace Disk

variable {disk : Disk} {path : Path} {place : Place} {name : Name} {node : Node}

/-- The disk with another node at a place. -/
def holding (disk : Disk) (place : Place) (node : Node) : Disk :=
  { disk with root := disk.root.graft place node }

/-- Where a path starts. -/
def start (disk : Disk) (path : Path) : Place := if path.isAbsolute then [] else disk.working

/-- A path leads to a directory, through a link at its end too; it may be too long to be
used.
-/
structure Leads (disk : Disk) (path : Path) (place : Place) : Prop where
  nonempty : path ≠ []
  clean : path.contains 0 = false
  route : ∃ left, Files.Leads disk.root true linkLimit (disk.start path) path.entries place left

/-- A path that can be used is walked. -/
theorem locateSteps_eq_ok {steps : List Name} {follow : Bool} {found : Found}
    : disk.locateSteps path steps follow = .ok found
      ↔ path ≠ []
        ∧ path.contains 0 = false
        ∧ path.length ≤ longestPath
        ∧ walk disk.root follow linkLimit (disk.start path) steps = .ok found := by
  unfold locateSteps start
  cases zero : path.contains 0 with
  | true => simp
  | false =>
      rw [if_neg Bool.false_ne_true]
      by_cases empty : path = []
      · simp [empty]
      · rw [if_neg empty]
        by_cases long : longestPath < path.length
        · simp [long]
        · rw [if_neg long]
          cases walk disk.root follow linkLimit (if path.isAbsolute then [] else disk.working)
              steps <;>
            simp [Except.mapError, empty, Nat.not_lt.mp long]

theorem lookUp_eq_ok {follow : Bool}
    : disk.lookUp path follow = .ok (place, node)
      ↔ disk.locateSteps path path.steps follow = .ok (.node place node) := by
  rw [lookUp]
  cases disk.locateSteps path path.steps follow with
  | error error => simp [bind, Except.bind]
  | ok found => cases found <;> simp [bind, Except.bind, pure, Except.pure, throw, throwThe,
      MonadExceptOf.throw]

/-- A path at which a directory is found leads to it. -/
theorem leads_of_lookUp (found : disk.lookUp path false = .ok (place, node))
    (directory : node.isDir = true)
    : disk.root.get? place = some node ∧ disk.Leads path place := by
  obtain ⟨nonempty, clean, _, walked⟩ := locateSteps_eq_ok.mp (lookUp_eq_ok.mp found)
  obtain ⟨held, left, route⟩ := Files.Leads.of_walk walked directory
  refine ⟨held, nonempty, clean, ?_⟩
  -- Behind a slash at the end the route only stays where it is.
  rw [Path.steps] at route
  split at route
  · obtain ⟨middle, spare, first, second⟩ := route.split
    cases second with
    | stay _ onward =>
        cases onward
        exact ⟨left, first⟩
    | enter | along => contradiction
  · rw [← List.append_nil path.entries] at route
    obtain ⟨middle, spare, first, second⟩ := route.split
    cases second
    exact ⟨left, first⟩

/-- A directory that a path finds is found in a larger tree too, with what it holds there. -/
theorem lookUp_mono {large : Disk} {other : Node}
    (found : disk.lookUp path false = .ok (place, node)) (directory : node.isDir = true)
    (same : large.working = disk.working) (within : disk.root.Within large.root)
    (held : large.root.get? place = some other)
    : large.lookUp path false = .ok (place, other) := by
  obtain ⟨nonempty, clean, fits, walked⟩ := locateSteps_eq_ok.mp (lookUp_eq_ok.mp found)
  obtain ⟨_, left, route⟩ := Files.Leads.of_walk walked directory
  refine lookUp_eq_ok.mpr (locateSteps_eq_ok.mpr ⟨nonempty, clean, fits, ?_⟩)
  rw [start, same]
  exact (route.mono within).walk_eq held

namespace Leads

theorem mono {large : Disk} (leads : disk.Leads path place)
    (same : large.working = disk.working) (within : disk.root.Within large.root)
    : large.Leads path place := by
  obtain ⟨left, route⟩ := leads.route
  refine ⟨leads.nonempty, leads.clean, left, ?_⟩
  rw [start, same]
  exact route.mono within

theorem inside (found : disk.root.get? (place ++ [name]) = some node)
    : (disk.root.get? place).map Node.isDir = some true := by
  rw [Node.get?_append, Option.bind_eq_some_iff] at found
  obtain ⟨directory, held, entry⟩ := found
  obtain ⟨mode, entries, rfl⟩ := Node.eq_dir_of_child? entry
  rw [held]
  rfl

/-- Behind a path that leads to a directory, the steps of an entry lead to it. -/
theorem locateSteps_join (leads : disk.Leads path place) (valid : Path.IsName name)
    (found : disk.root.get? (place ++ [name]) = some node)
    (fits : (path.join name).length ≤ longestPath)
    : disk.locateSteps (path.join name) (path.entries ++ [name]) false
      = .ok (.node (place ++ [name]) node) := by
  obtain ⟨left, route⟩ := leads.route
  refine locateSteps_eq_ok.mpr
    ⟨Path.join_ne_nil valid, Path.contains_zero_join valid leads.clean, fits, ?_⟩
  have same : disk.start (path.join name) = disk.start path := by
    rw [start, Path.isAbsolute_join leads.nonempty, start]
  rw [same, route.walk_append _ _ (fun _ => Or.inl (List.cons_ne_nil _ _)), walk, inside found,
    found]
  simp only [Nat.not_lt.mpr valid.short, valid.not_dot, valid.not_dotDot, if_false]
  cases node <;> simp [walk, found]

theorem status_join (leads : disk.Leads path place) (valid : Path.IsName name)
    (found : disk.root.get? (place ++ [name]) = some node)
    (fits : (path.join name).length ≤ longestPath)
    : disk.status (path.join name) = .ok node := by
  have located := leads.locateSteps_join valid found fits
  rw [← Path.steps_join valid] at located
  rw [status, lookUp_eq_ok.mpr located]
  rfl

theorem locateEntry_join (leads : disk.Leads path place) (valid : Path.IsName name)
    (found : disk.root.get? (place ++ [name]) = some node)
    (fits : (path.join name).length ≤ longestPath)
    : disk.locateEntry (path.join name) = .ok (.node (place ++ [name]) node) := by
  rw [locateEntry, Path.entries_join valid]
  exact leads.locateSteps_join valid found fits

/-- An entry whose path is too long cannot be looked at. -/
theorem status_join_of_long (leads : disk.Leads path place) (valid : Path.IsName name)
    (long : longestPath < (path.join name).length)
    : disk.status (path.join name) = .error (.os .nameTooLong) := by
  rw [status, lookUp, locateSteps, Path.contains_zero_join valid leads.clean,
    if_neg Bool.false_ne_true, if_neg (Path.join_ne_nil valid), if_pos long]
  rfl

/-- A path leads on into the directories of its directory. -/
theorem join {mode : Nat} {entries : List (Name × Node)} (leads : disk.Leads path place)
    (valid : Path.IsName name)
    (found : disk.root.get? (place ++ [name]) = some (.dir mode entries))
    : disk.Leads (path.join name) (place ++ [name]) := by
  obtain ⟨left, route⟩ := leads.route
  refine ⟨Path.join_ne_nil valid, Path.contains_zero_join valid leads.clean, left, ?_⟩
  rw [start, Path.isAbsolute_join leads.nonempty, Path.entries_join valid]
  exact route.append
    (.enter (inside found) valid.short valid.not_dot valid.not_dotDot found
      (fun _ link => nomatch link) (.here left _))

end Leads

end Disk

end CrashCapture.Files
