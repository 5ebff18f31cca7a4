import CrashCapture.Files.Disk

/-! What keeps the directory of the reports in order: reading back the end of a log, making
and emptying directories, and files that a handler can store into.
-/

namespace CrashCapture.Files

/-- Which calls on files are refused. -/
structure Refusals where
  read : Option Errno := none
  openDirectory : Bool := false
  readDirectory : Bool := false
  resize : Option Errno := none
  share : Option Errno := none
deriving DecidableEq, Repr

namespace Disk

/-- Reads a whole file, or only its last `most` bytes when it is longer than that and `most`
is not zero. -/
def readTail (disk : Disk) (refusals : Refusals) (path : Path) (most : Nat)
    : Except Failure (List UInt8) := do
  let (_, node) ← (disk.lookUp path true).mapError .io
  match node with
  | .dir .. => throw (.ofErrno (refusals.read.getD .isDirectory))
  | .file _ data =>
    match data, refusals.read with
    | _ :: _, some errno => throw (.ofErrno errno)
    | _, _ =>
      if most = 0 ∨ data.length ≤ most then return data
      else return data.drop (data.length - most)
  | _ => return []

/-- The mode of directories made for reports. -/
def privateMode : Nat := 0o700

/-- Makes a directory that may be there already. -/
def ensureDirectory (disk : Disk) (mode : Nat) (path : Path) : Except IoError Disk :=
  match disk.makeDirectory path mode with
  | .ok made => .ok made
  | .error error => if disk.isDirectory path then .ok disk else .error error

/-- Makes a directory, and first those above it that are missing. What was made stays when a
later step is refused. -/
def makeAll (disk : Disk) (mode : Nat) : List Path → Except IoError Unit × Disk
  | [] => (.ok (), disk)
  | path :: above =>
    match disk.makeDirectory path mode with
    | .ok made => (.ok (), made)
    | .error error =>
      if error.toKind = .notFound then
        match makeAll disk mode above with
        | (.error error, after) => (.error error, after)
        | (.ok (), after) =>
          match after.ensureDirectory mode path with
          | .ok made => (.ok (), made)
          | .error error => (.error error, after)
      else if disk.isDirectory path then (.ok (), disk)
      else (.error error, disk)

/-- Creates a directory and every missing one above it. -/
def makeTree (disk : Disk) (mode : Nat) (path : Path) : Except IoError Unit × Disk :=
  if path = [] then (.ok (), disk) else disk.makeAll mode (path :: path.above)

/-- Creates a directory and every missing one above it, for its owner alone. -/
def makePath (disk : Disk) (path : Path) : Except Failure Unit × Disk :=
  let (result, after) := disk.makeTree privateMode path
  (result.mapError .io, after)

/-- Removes a file, a link or an empty directory, and tells whether it was there. -/
def removeFile (disk : Disk) (path : Path) (mustExist : Bool)
    : Except Failure Bool × Disk :=
  let removed : Except IoError Disk :=
    match disk.status path with
    | .error error => .error error
    | .ok node => if node.isDir then disk.removeDirectory path else disk.unlink path
  match removed with
  | .ok after => (.ok true, after)
  | .error error =>
    if error.toKind = .notFound ∧ !mustExist then (.ok false, disk)
    else (.error (.io error), disk)

/-- Whether contents may be deleted through a path: not when its text ends in the directory
itself or the one above. -/
def isDeletable (path : Path) : Bool :=
  match Utf8.decode? path with
  | none => true
  | some text => lastEntry text ≠ "." ∧ lastEntry text ≠ ".."

mutual

/-- Deletes what stands at a path, with everything in it, as far as that can be deleted. The
node is what the directory above listed; what is there now is looked at again. -/
def sweep (refusals : Refusals) (path : Path) (disk : Disk) : Node → Disk
  | .dir _ entries =>
    match disk.status path with
    | .ok (.dir ..) =>
      ((if refusals.openDirectory ∨ refusals.readDirectory then disk
        else sweepEntries refusals path disk entries).removeFile path false).2
    | _ => disk
  | .special => disk
  | _ =>
    match disk.status path with
    | .ok (.file ..) => (disk.removeFile path false).2
    | .ok (.link ..) => (disk.removeFile path false).2
    | _ => disk

def sweepEntries (refusals : Refusals) (path : Path) (disk : Disk)
    : List (Name × Node) → Disk
  | [] => disk
  | entry :: rest =>
    sweepEntries refusals path (sweepEntry refusals path disk entry) rest

def sweepEntry (refusals : Refusals) (path : Path) (disk : Disk) : Name × Node → Disk
  | (name, node) =>
    if isDeletable (path.join name) then sweep refusals (path.join name) disk node
    else disk

end

/-- Deletes everything in a directory and leaves the directory. At a file or a link that
itself is deleted; something else is refused. -/
def deleteContents (disk : Disk) (refusals : Refusals) (path : Path)
    : Except Failure Unit × Disk :=
  if !isDeletable path then
    (.error (.invalidArgument ("refusing to delete " ++ path.text)), disk)
  else
    match disk.status path with
    | .error error =>
      if error.toKind = .notFound then (.ok (), disk) else (.error (.io error), disk)
    | .ok (.dir _ entries) =>
      (.ok (),
        if refusals.openDirectory ∨ refusals.readDirectory then disk
        else sweepEntries refusals path disk entries)
    | .ok .special =>
      (.error (.invalidArgument (path.text ++ " is not a regular file")), disk)
    | .ok _ =>
      let (result, after) := disk.removeFile path false
      (result.map fun _ => (), after)

/-- The largest size a file can be given. -/
def sizeLimit : Nat := UInt64.size / 2

/-- Gives an open file its size, filled with zeros, and maps it. -/
def resizeAndShare (disk : Disk) (refusals : Refusals) (place : Place) (size : Nat)
    : Except IoError Disk :=
  if sizeLimit ≤ size then .error (.kind .invalidInput)
  else
    match disk.root.get? place with
    | some (.file ..) =>
      match refusals.resize, refusals.share with
      | some errno, _ => .error (.os errno)
      | none, some errno => .error (.os errno)
      | none, none => .ok (disk.setData place (List.replicate size 0))
    | _ => .error (.os .invalid)

/-- Creates or empties a file, gives it its size and maps it; the answer is the place whose
data the mapping shows. The file is removed again when that fails. -/
def mapFile (disk : Disk) (refusals : Refusals) (path : Path) (size : Nat)
    : Except Failure Place × Disk :=
  if size = 0 then (.error (.invalidArgument "cannot map an empty file"), disk)
  else
    match disk.openEmptied path 0o644 with
    | .error error => (.error (.io error), disk)
    | .ok (place, opened) =>
      match opened.resizeAndShare refusals place size with
      | .ok mapped => (.ok place, mapped)
      | .error error => (.error (.io error), (opened.unlink path).toOption.getD opened)

end Disk

end CrashCapture.Files
