import CrashCapture.Descriptor.Writer
import CrashCapture.EventId
import CrashCapture.Files.Housekeeping

/-! Where reports go. With a directory set, every report is a new file in it, named for its
event, and a line on standard error tells where; the line is written only when the whole
report has reached the file. Without a directory the report itself goes to standard error.
-/

namespace CrashCapture.Report

open Descriptor Files
open Log (Noted)

/-- The most bytes of the path of a report, a zero at the end included. -/
def pathCapacity : Nat := 1024

/-- The buffer that a report is written through. -/
def writeCapacity : Nat := 4096

/-- What every path of a report ends in, with a zero behind it. -/
def suffix : List UInt8 := Text.bytes ".txt" ++ [0]

/-- Why a directory is not accepted. -/
inductive DirectoryFault where
  | tooLong (directory : Path)
  | alreadySet
deriving DecidableEq, Repr

def DirectoryFault.message : DirectoryFault → String
  | .tooLong directory => "report directory path is too long: " ++ directory.text
  | .alreadySet => "report directory already set"

/-- Sets the directory, once. -/
def setDirectory (current : Option Path) (directory : Path)
    : Except DirectoryFault (Option Path) :=
  if pathCapacity < directory.length + 1 + EventId.textLength + suffix.length then
    .error (.tooLong directory)
  else
    match current with
    | some _ => .error .alreadySet
    | none => .ok (some directory)

/-- The path of a report; none when it does not fit into `capacity` bytes or could not be
handed to the kernel whole. -/
def path? (capacity : Nat) (directory : Path) (id : String) : Option Path :=
  let path := directory ++ [Path.slash] ++ Text.bytes id ++ suffix
  if capacity < path.length ∨ path.dropLast.contains 0 then none else some path.dropLast

/-- A report and standard error after it was delivered. -/
structure Delivery where
  /-- The descriptor of the file, when one was opened. -/
  file : Option Sink := none
  standardError : Sink
deriving DecidableEq, Repr

/-- Writes the pieces of a text through a buffer and lets the descriptor go. -/
def writePieces (writer : Writer) (pieces : List String) : Noted (Bool × Sink) := do
  let (written, after) ← writer.writeAll (pieces.map Text.bytes)
  let (closed, sink) ← after.close
  return (written.isOk && closed.isOk, sink)

/-- The line that tells where a report is. -/
def announcement (path : Path) : List String :=
  ["crash report written to ", (Utf8.decode? path).getD "<non-utf8 path>", "\n"]

/-- Writes a report to a file that was just created; a refusal to create it ends it. -/
def toFile (path : Path) (opened : Except IoError Sink) (standardError : Sink)
    (pieces : List String)
    : Noted Delivery := do
  match ← Writer.create path writeCapacity opened with
  | .error _ => return { standardError := standardError }
  | .ok writer =>
    let (whole, file) ← writePieces writer pieces
    if whole then
      let (_, standardError) ← standardError.writeMessage (announcement path)
      return { file := some file, standardError := standardError }
    else return { file := some file, standardError := standardError }

/-- Writes a report to standard error. -/
def toStandardError (standardError : Sink) (pieces : List String) : Noted Delivery := do
  let (_, after) ← writePieces (.borrow standardError writeCapacity) pieces
  return { standardError := after }

/-- The mode of report files. -/
def fileMode : Nat := 0o644

/-- The descriptor that a report's file gets, when nothing goes wrong with it. -/
def fileSink : Sink := { number := 3 }

/-- Delivers a report, given in pieces: into the directory, when there is one and the path
fits, else to standard error. What is written to the new file goes through `file`. -/
def deliver (disk : Disk) (directory : Option Path) (id : EventId)
    (standardError file : Sink) (pieces : List String)
    : Noted (Delivery × Disk) := do
  match directory.bind (path? pathCapacity · id.text) with
  | none =>
    let delivery ← toStandardError standardError pieces
    return (delivery, disk)
  | some path =>
    match disk.createNew path fileMode with
    | .error error =>
      let delivery ← toFile path (.error error) standardError pieces
      return (delivery, disk)
    | .ok (place, created) =>
      let delivery ← toFile path (.ok file) standardError pieces
      return (delivery,
        created.setData place ((delivery.file.map (·.received)).getD []))

end CrashCapture.Report
