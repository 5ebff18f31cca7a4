import CrashCapture.Files.Path

/-! A tree of files. A place in it is the list of names that lead there from the root,
through directories only; links are nodes of their own and lead nowhere by themselves.
-/

namespace CrashCapture.Files

inductive Node where
  | file (mode : Nat) (data : List UInt8)
  | dir (mode : Nat) (entries : List (Name × Node))
  | link (target : Path)
  | special
deriving Inhabited

/-- A place in the tree. -/
abbrev Place := List Name

namespace Node

def isDir : Node → Bool
  | .dir .. => true
  | _ => false

def entries : Node → List (Name × Node)
  | .dir _ entries => entries
  | _ => []

/-- The entry of that name. -/
def child? (node : Node) (name : Name) : Option Node :=
  (node.entries.find? (fun entry => entry.1 = name)).map (·.2)

/-- The node at a place. -/
def get? (node : Node) : Place → Option Node
  | [] => some node
  | name :: place => (node.child? name).bind (get? · place)

/-- Changes, adds or removes the entry of that name. -/
def alterEntry (change : Option Node → Option Node) (name : Name)
    : List (Name × Node) → List (Name × Node)
  | [] => ((change none).map fun node => (name, node)).toList
  | entry :: rest =>
    if entry.1 = name then
      ((change (some entry.2)).map fun node => (name, node)).toList ++ rest
    else entry :: alterEntry change name rest

/-- Changes, adds or removes what stands at a place below the node. Where no directory leads
there nothing happens. -/
def alter (change : Option Node → Option Node) : Place → Node → Node
  | [], node => node
  | [name], .dir mode entries => .dir mode (alterEntry change name entries)
  | name :: place, .dir mode entries =>
    .dir mode (alterEntry (fun found => found.map (alter change place)) name entries)
  | _ :: _, node => node

def put (root : Node) (place : Place) (node : Node) : Node :=
  alter (fun _ => some node) place root

def remove (root : Node) (place : Place) : Node := alter (fun _ => none) place root

/-- The order of names, byte by byte. -/
def nameLe : Name → Name → Bool
  | [], _ => true
  | _ :: _, [] => false
  | a :: as, b :: bs => a < b || (a = b && nameLe as bs)

mutual

/-- Everything below a node, depth first and by name, with its place. -/
def descendants : Node → List (Place × Node)
  | .dir _ entries =>
    ((descendantsOfEntries entries).mergeSort fun a b => nameLe a.1 b.1).flatMap (·.2)
  | _ => []

def descendantsOfEntries : List (Name × Node) → List (Name × List (Place × Node))
  | [] => []
  | entry :: rest => descendantsOfEntry entry :: descendantsOfEntries rest

def descendantsOfEntry : Name × Node → Name × List (Place × Node)
  | (name, node) =>
    (name, ([name], node) :: (descendants node).map fun found => (name :: found.1, found.2))

end

/-- Everything below a node, with its path from there. -/
def listing (node : Node) : List (String × Node) :=
  node.descendants.map fun (place, found) => (Path.text (Path.ofEntries false place), found)

end Node

end CrashCapture.Files
