import CrashCapture.Report.File

/-! How the path of a report is put together where nothing may be allocated: in a storage of
fixed size, each part copied to its place. What the storage does not have cannot be reached;
to try it is a fault of the program.
-/

namespace CrashCapture.Report

open Files

/-- Bytes of a fixed number, which are overwritten in place. -/
abbrev Storage := List UInt8

/-- Why a storage cannot be accessed as asked for: the place is outside of it, or a source has
another length than the part that it is copied to. -/
inductive RangeFault where
  | outside
  | unequal
deriving DecidableEq, Repr

namespace Storage

/-- The parts in front of a place and from it on. -/
def divide (storage : Storage) (place : Nat) : Except RangeFault (Storage × Storage) :=
  if place ≤ storage.length then .ok (storage.take place, storage.drop place)
  else .error .outside

def put (storage : Storage) (place : Nat) (byte : UInt8) : Except RangeFault Storage :=
  if place < storage.length then .ok (storage.set place byte) else .error .outside

/-- Copies a source over the part from `start` on that ends in front of `stop`. -/
def copyOver (storage : Storage) (start stop : Nat) (source : List UInt8)
    : Except RangeFault Storage :=
  if stop < start ∨ storage.length < stop then .error .outside
  else if source.length ≠ stop - start then .error .unequal
  else .ok (storage.take start ++ source ++ storage.drop stop)

def first (storage : Storage) (count : Nat) : Except RangeFault (List UInt8) :=
  if count ≤ storage.length then .ok (storage.take count) else .error .outside

end Storage

/-- What stands before a zero at the end, unless there is another one before it. -/
def terminated? (bytes : List UInt8) : Option (List UInt8) :=
  match bytes.findIdx? (· = 0) with
  | some place => if place + 1 = bytes.length then some (bytes.take place) else none
  | none => none

/-- Puts the path of a report together in a storage, which is left as it is when the path does
not fit. Behind the directory come a slash, the identifier and the suffix. -/
def assemble (directory : Path) (id : String) (storage : Storage)
    : Except RangeFault (Option Path × Storage) :=
  let name := Text.bytes id
  let length := directory.length + 1 + name.length + suffix.length
  if storage.length < length then .ok (none, storage)
  else do
    let (front, rest) ← storage.divide directory.length
    let front ← front.copyOver 0 front.length directory
    let rest ← rest.put 0 Path.slash
    let rest ← rest.copyOver 1 (name.length + 1) name
    let rest ← rest.copyOver (1 + name.length) (length - directory.length) suffix
    let written ← Storage.first (front ++ rest) length
    return (terminated? written, front ++ rest)

end CrashCapture.Report
