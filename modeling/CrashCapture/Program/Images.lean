import CrashCapture.Program.Command
import CrashCapture.Report.Text

/-! The lists of images and of resolved addresses that the program prints.
-/

namespace CrashCapture.Program

open Log (Noted)

/-- The most bytes of a crash message that are shown, a zero at the end included. -/
def crashMessageCapacity : Nat := 4097

/-- What a process without images prints in place of a list. -/
def noImagesLine : String := "No Mach-O images are visible on this platform."

def imageName (image : Image.Description) : String := image.nameText?.getD "???"

/-- Index, address, size, version, identifier and path of an image. -/
def imageLine (index : Nat) (image : Image.Description) : String :=
  Digits.decimalAligned 4 index ++ " " ++ image.address.text ++ " "
    ++ Digits.decimalAligned 10 image.size.toNat ++ " "
    ++ Digits.decimalAligned 3 image.majorVersion ++ "."
    ++ Digits.decimal image.minorVersion ++ "." ++ Digits.decimal image.revision ++ " "
    ++ image.uuidText?.getD "-" ++ " " ++ imageName image

/-- The crash message of an image, when it can be read. -/
def crashLine? (memory : Memory) (image : Image.Description) : Option String :=
  (image.crashInfo.message.bind (·.read? memory crashMessageCapacity)).map fun message =>
    "       crash info: " ++ Utf8.lossy message

/-- Whether a filter lets an image through: its path contains the text of the filter. -/
def isWanted (filter : Option String) (image : Image.Description) : Bool :=
  match filter with
  | none => true
  | some part => Image.Table.holds (Text.bytes part) (Text.bytes (imageName image))

/-- The lines of the image at an index; none when it cannot be described or is not
wanted. -/
def imageLines? (table : Image.Table) (filter : Option String) (index : Nat)
    : Noted (Option (List String)) := do
  match ← table.imageAt? index with
  | none => return none
  | some image =>
    if isWanted filter image then
      return some (imageLine index image :: (crashLine? table.memory image).toList)
    else return none

/-- The list of images, and how many are in it; nothing is counted where there are none. -/
def imageListing (table : Image.Table) (filter : Option String)
    : Noted (List String × Option Nat) := do
  if table.source.count = 0 then return ([noImagesLine], none)
  else
    let shown ← (List.range table.source.count).mapM (imageLines? table filter)
    let shown := shown.filterMap id
    return (shown.flatten, some shown.length)

/-- The line of every address, with the image and the symbol that it belongs to. -/
def resolvedLines (table : Image.Table) (addresses : List Address)
    : Noted (List String) :=
  addresses.zipIdx.mapM fun (address, index) => Report.frameLine table index address

end CrashCapture.Program
