import CrashCapture.Image.StoredText
import CrashCapture.Log.Notice

/-! What a library left behind about its own crash: a record of pointers to texts, in memory
that may have been damaged. It is checked before any of it is used.
-/

namespace CrashCapture.Image

structure CrashInfo where
  message : Option StoredText := none
  message2 : Option StoredText := none
  signature : Option StoredText := none
  backtrace : Option StoredText := none
deriving DecidableEq, Repr

namespace CrashInfo

def isEmpty (info : CrashInfo) : Bool :=
  info.message.isNone && info.message2.isNone && info.signature.isNone
    && info.backtrace.isNone

/-- The longest text that is taken, its end not counted. -/
def longestText : Nat := 4096

def recordSize : Nat := 40

def textAt? (memory : Memory) (record : List UInt8) (offset : Nat) : Option StoredText :=
  StoredText.find? memory (.ofNat (Memory.field record offset 8)) (longestText + 1)

def skipped (reason : String) : Log.Noted CrashInfo := do
  .note ⟨.trace, .crashInfo, "skipped crash info: " ++ reason⟩
  return {}

/-- What a record says: its version is 4 or 5 and one of its messages is set, else it says
nothing. -/
def ofRecord (memory : Memory) (record : List UInt8) : Log.Noted CrashInfo :=
  let version := Memory.field record 0 4
  if version ≠ 4 ∧ version ≠ 5 then skipped ("invalid version " ++ Digits.decimal version)
  else if Memory.field record 8 8 = 0 ∧ Memory.field record 32 8 = 0 then
    skipped "both messages are null"
  else
    return {
      message := textAt? memory record 8
      message2 := textAt? memory record 32
      signature := textAt? memory record 16
      backtrace := textAt? memory record 24 }

/-- Reads the record at the start of a section of that size. -/
def read (memory : Memory) (start : Address) (size : Nat) : Log.Noted CrashInfo :=
  if size < recordSize then skipped "section is too small"
  else if memory.isReadable start recordSize then
    match memory.read? start recordSize with
    | none => return {}
    | some record => ofRecord memory record
  else skipped "section memory is not readable"

end CrashInfo

end CrashCapture.Image
