import CrashCapture.Failure
import CrashCapture.Files.Tree

/-! The file system as programs see it: paths are walked through directories and links from
the root or from the working directory, and every call either changes one entry or is
refused.
-/

namespace CrashCapture.Files

/-- A tree and the directory that relative paths start from. -/
structure Disk where
  root : Node
  working : Place

/-- What a path leads to: a node that is there, or an entry that a directory lacks. -/
inductive Found where
  | node (place : Place) (node : Node)
  | missing (directory : Place) (name : Name)

/-- The most links that one path may lead through. -/
def linkLimit : Nat := 40

def longestName : Nat := 255

def longestPath : Nat := 4095

/-- Goes the remaining steps of a path from a place. A link is followed, unless it comes last
and `follow` is off. -/
def walk (root : Node) (follow : Bool) (links : Nat) (place : Place)
    : List Name → Except Errno Found
  | [] =>
    match root.get? place with
    | some node => .ok (.node place node)
    | none => .error .noEntry
  | name :: steps =>
    match (root.get? place).map Node.isDir with
    | none => .error .noEntry
    | some false => .error .notDirectory
    | some true =>
      if longestName < name.length then .error .nameTooLong
      else if name = Path.dot then walk root follow links place steps
      else if name = Path.dotDot then walk root follow links place.dropLast steps
      else
        match root.get? (place ++ [name]) with
        | none => if steps = [] then .ok (.missing place name) else .error .noEntry
        | some (.link target) =>
          if steps = [] ∧ !follow then .ok (.node (place ++ [name]) (.link target))
          else
            match links with
            | 0 => .error .loop
            | links + 1 =>
              walk root follow links (if target.isAbsolute then [] else place)
                (target.steps ++ steps)
        | some _ => walk root follow links (place ++ [name]) steps
termination_by steps => (links, steps.length)

namespace Disk

/-- A file system with an empty working directory below the root. -/
def fresh : Disk where
  root :=
    .dir 0o755 [
      (Text.bytes "dev", .dir 0o755 [(Text.bytes "null", .special)]),
      (Text.bytes "work", .dir 0o755 [])]
  working := [Text.bytes "work"]

/-- Follows the steps of a path; a path cannot hold a zero byte, and is not empty or
endless. -/
def locateSteps (disk : Disk) (path : Path) (steps : List Name) (follow : Bool)
    : Except IoError Found :=
  if path.contains 0 then .error (.kind .invalidInput)
  else if path = [] then .error (.os .noEntry)
  else if longestPath < path.length then .error (.os .nameTooLong)
  else
    (walk disk.root follow linkLimit (if path.isAbsolute then [] else disk.working)
      steps).mapError .os

/-- What a path leads to, an entry for nothing being a refusal. -/
def lookUp (disk : Disk) (path : Path) (follow : Bool)
    : Except IoError (Place × Node) := do
  match ← disk.locateSteps path path.steps follow with
  | .node place node => return (place, node)
  | .missing _ _ => throw (.os .noEntry)

/-- The node at a path, a link at its end not being followed. -/
def status (disk : Disk) (path : Path) : Except IoError Node :=
  (disk.lookUp path false).map (·.2)

/-- Whether a path leads to a directory. -/
def isDirectory (disk : Disk) (path : Path) : Bool :=
  match disk.lookUp path true with
  | .ok (_, node) => node.isDir
  | .error _ => false

/-- How the last entry of a path is written. -/
inductive LastStep where
  | name
  | dot
  | dotDot
  | root
deriving DecidableEq, Repr

def lastStep (path : Path) : LastStep :=
  match path.entries.getLast? with
  | none => .root
  | some name =>
    if name = Path.dot then .dot else if name = Path.dotDot then .dotDot else .name

/-- What the entries of a path lead to when a slash at the end is left out. -/
def locateEntry (disk : Disk) (path : Path) : Except IoError Found :=
  disk.locateSteps path path.entries false

def putAt (disk : Disk) (place : Place) (node : Node) : Disk :=
  { disk with root := disk.root.put place node }

def removeAt (disk : Disk) (place : Place) : Disk :=
  { disk with root := disk.root.remove place }

/-- Adds an entry that is not there yet. Only a directory may be asked for with a slash at
the end. -/
def addEntry (disk : Disk) (path : Path) (node : Node) : Except IoError Disk := do
  match ← disk.locateEntry path with
  | .node _ _ => throw (.os .alreadyExists)
  | .missing directory name =>
    if path.asksDirectory ∧ !node.isDir then throw (.os .noEntry)
    else return disk.putAt (directory ++ [name]) node

def makeDirectory (disk : Disk) (path : Path) (mode : Nat) : Except IoError Disk :=
  disk.addEntry path (.dir mode [])

def makeLink (disk : Disk) (path target : Path) : Except IoError Disk :=
  if target.contains 0 then .error (.kind .invalidInput)
  else if target = [] then .error (.os .noEntry)
  else disk.addEntry path (.link target)

/-- Removes an entry that is no directory. -/
def unlink (disk : Disk) (path : Path) : Except IoError Disk := do
  match ← disk.locateEntry path with
  | .missing _ _ => throw (.os .noEntry)
  | .node place node =>
    if node.isDir then throw (.os .isDirectory)
    else if path.asksDirectory then throw (.os .notDirectory)
    else return disk.removeAt place

/-- Removes an empty directory. -/
def removeDirectory (disk : Disk) (path : Path) : Except IoError Disk := do
  match ← disk.locateEntry path with
  | .missing _ _ => throw (.os .noEntry)
  | .node place node =>
    match lastStep path with
    | .dot => throw (.os .invalid)
    | .dotDot => throw (.os .notEmpty)
    | .root => throw (.os .busy)
    | .name =>
      if !node.isDir then throw (.os .notDirectory)
      else if !node.entries.isEmpty then throw (.os .notEmpty)
      else return disk.removeAt place

/-- Creates a file that must not be there yet. -/
def createNew (disk : Disk) (path : Path) (mode : Nat)
    : Except IoError (Place × Disk) := do
  if lastStep path = .name ∧ path.asksDirectory then
    let _ ← disk.locateSteps path path.entries.dropLast true
    throw (.os .isDirectory)
  match ← disk.locateEntry path with
  | .node _ _ => throw (.os .alreadyExists)
  | .missing directory name =>
    return (directory ++ [name], disk.putAt (directory ++ [name]) (.file mode []))

/-- Opens a file for writing from its start: creates it when it is missing, else empties
it. -/
def openEmptied (disk : Disk) (path : Path) (mode : Nat)
    : Except IoError (Place × Disk) := do
  if lastStep path = .name ∧ path.asksDirectory then
    let _ ← disk.locateSteps path path.entries.dropLast true
    throw (.os .isDirectory)
  match ← disk.locateSteps path path.entries true with
  | .missing directory name =>
    return (directory ++ [name], disk.putAt (directory ++ [name]) (.file mode []))
  | .node place (.file mode _) => return (place, disk.putAt place (.file mode []))
  | .node _ (.dir ..) => throw (.os .isDirectory)
  | .node place _ => return (place, disk)

/-- Opens a file for writing at its end, and creates it when it is missing. -/
def openAtEnd (disk : Disk) (path : Path) (mode : Nat) : Except IoError (Place × Disk) :=
  match disk.lookUp path true with
  | .ok (place, .file ..) => .ok (place, disk)
  | _ => disk.openEmptied path mode

/-- Adds data at the end of an open file. -/
def append (disk : Disk) (place : Place) (data : List UInt8) : Disk :=
  match disk.root.get? place with
  | some (.file mode old) => disk.putAt place (.file mode (old ++ data))
  | _ => disk

/-- Puts data into a file that is open. -/
def setData (disk : Disk) (place : Place) (data : List UInt8) : Disk :=
  match disk.root.get? place with
  | some (.file mode _) => disk.putAt place (.file mode data)
  | _ => disk

/-- Overwrites data of an open file, as a mapping of the file does. -/
def store (disk : Disk) (place : Place) (offset : Nat) (data : List UInt8) : Disk :=
  match disk.root.get? place with
  | some (.file mode old) =>
    disk.putAt place
      (.file mode (old.take offset ++ data ++ old.drop (offset + data.length)))
  | _ => disk

/-- Writes a whole file. -/
def writeFile (disk : Disk) (path : Path) (data : List UInt8)
    : Except IoError Disk := do
  let (place, opened) ← disk.openEmptied path 0o644
  return opened.setData place data

/-- The data of the file at a path. -/
def dataAt? (disk : Disk) (path : Path) : Option (List UInt8) :=
  match disk.lookUp path true with
  | .ok (_, .file _ data) => some data
  | _ => none

/-- The working directory. -/
def workingNode (disk : Disk) : Node :=
  (disk.root.get? disk.working).getD (.dir 0 [])

/-- Everything below the working directory, with its path. -/
def listing (disk : Disk) : List (String × Node) := disk.workingNode.listing

end Disk

end CrashCapture.Files
