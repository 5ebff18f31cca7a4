import CrashCapture.Text.Utf8
import CrashCapture.Text.Blank

/-! Paths: bytes with slashes between their entries. Empty entries mean nothing, so a run of
slashes counts as one; a slash at the end asks for a directory.
-/

namespace CrashCapture.Files

/-- What stands after the last slash. -/
def lastEntry (path : String) : String :=
  String.ofList (path.toList.reverse.takeWhile (· ≠ '/')).reverse

/-- The name of an entry of a directory. -/
abbrev Name := List UInt8

abbrev Path := List UInt8

namespace Path

def slash : UInt8 := 0x2F

def dot : Name := [0x2E]

def dotDot : Name := [0x2E, 0x2E]

/-- The entries between slashes, empty ones included. -/
def pieces : Path → List Name
  | [] => [[]]
  | byte :: rest =>
    match pieces rest with
    | [] => [[byte]]
    | piece :: more => if byte = slash then [] :: piece :: more else (byte :: piece) :: more

/-- The entries a path goes through. -/
def entries (path : Path) : List Name := (pieces path).filter (· ≠ [])

def isAbsolute (path : Path) : Bool := path.head? = some slash

/-- Whether a slash at the end asks for a directory. -/
def asksDirectory (path : Path) : Bool := path.getLast? = some slash

/-- Behind a slash at the end the directory itself is meant. -/
def steps (path : Path) : List Name :=
  if path.asksDirectory then entries path ++ [dot] else entries path

/-- Joins an entry to a directory's path. -/
def join (path : Path) (name : Name) : Path :=
  if path = [] ∨ path.asksDirectory then path ++ name else path ++ [slash] ++ name

def ofText (text : String) : Path := Text.bytes text

/-- A path as messages show it. -/
def text (path : Path) : String := Utf8.lossy path

/-- The entries that count: an entry for the directory itself does so only in front of a
path that is not absolute. -/
def parts (path : Path) : List Name :=
  match entries path with
  | [] => []
  | name :: rest =>
    let rest := rest.filter (· ≠ dot)
    if name = dot ∧ path.isAbsolute then rest else name :: rest

/-- The name of the file that a path leads to. -/
def fileName? (path : Path) : Option Name :=
  (parts path).getLast?.filter fun name => name ≠ dot ∧ name ≠ dotDot

/-- A path that goes through these entries. -/
def ofEntries (absolute : Bool) (names : List Name) : Path :=
  (if absolute then [slash] else []) ++ List.intercalate [slash] names

/-- The directory that a path's file is in. -/
def directory (path : Path) : Path :=
  match (parts path).dropLast with
  | [] => if path.isAbsolute then [slash] else dot
  | names => ofEntries path.isAbsolute names

/-- The paths of the directories above a path, nearest first; entries for the directory
itself do not count. -/
def above (path : Path) : List Path :=
  let names := (entries path).filter (· ≠ dot)
  (List.range (names.length - 1)).reverse.map fun count =>
    ofEntries path.isAbsolute (names.take (count + 1))

end Path

end CrashCapture.Files
