import CrashCapture.Failure
import CrashCapture.Log.Notice
import CrashCapture.Memory.Reader

/-! The threads of the process, as the kernel lists them: one directory entry for every
thread, delivered in batches of raw records. A record gives its own length, and its name
ends at the first zero byte.
-/

namespace CrashCapture.Threads

/-- Where a directory record holds its length, and where its name starts. -/
def recordLengthOffset : Nat := 16
def recordNameOffset : Nat := 19

/-- What the kernel answers when the list is opened and read. -/
structure TaskDirectory where
  openRefused : Option Errno := none
  batches : List (List UInt8) := []
  readRefused : Option Errno := none
deriving DecidableEq, Repr

/-- The record the kernel writes for an entry of this name. -/
def record (name : String) : List UInt8 :=
  let text := Text.bytes name
  let size := (recordNameOffset + text.length + 1 + 7) / 8 * 8
  List.replicate recordLengthOffset 0 ++ [UInt8.ofNat size, UInt8.ofNat (size / 256), 4]
    ++ text ++ List.replicate (size - recordNameOffset - text.length) 0

/-- The directory of a process with these threads: itself and its parent come first. -/
def TaskDirectory.ofThreads (threads : List ThreadId) : TaskDirectory where
  batches := (record "." ++ record "..") :: threads.map (fun thread => record thread.text)

/-- A name of digits only is a thread; the number wraps at 64 bits. -/
def threadOfName? (name : List UInt8) : Option ThreadId :=
  if name.isEmpty then none
  else
    (name.foldlM (fun (value : UInt64) (byte : UInt8) =>
      if 0x30 ≤ byte ∧ byte ≤ 0x39 then some (value * 10 + (byte - 0x30).toUInt64)
      else none) 0).map ThreadId.mk

/-- The threads of one batch, and whether its walk went to an end: it breaks at a record
whose name would end before it starts. -/
def walkBatch (bytes : List UInt8) : List ThreadId × Bool :=
  if _h : recordNameOffset < bytes.length then
    let size := Memory.field bytes recordLengthOffset 2
    if _h : size = 0 ∨ bytes.length < size then ([], true)
    else if size < recordNameOffset then ([], false)
    else
      let name := ((bytes.take size).drop recordNameOffset).takeWhile (· ≠ 0)
      let rest := walkBatch (bytes.drop size)
      ((threadOfName? name).toList ++ rest.1, rest.2)
  else ([], true)
termination_by bytes.length
decreasing_by
  simp only [not_or] at _h
  simp only [List.length_drop]
  omega

/-- What a listing visited, in order, and how it ended. -/
structure Listing where
  visited : List ThreadId
  result : Except Failure Unit
  broken : Bool := false

/-- The threads of the batches up to one without bytes, which is the end of the list. -/
def walkBatches : List (List UInt8) → List ThreadId × Bool
  | [] => ([], true)
  | batch :: rest =>
    if batch = [] then ([], true)
    else
      match walkBatch batch with
      | (threads, false) => (threads, false)
      | (threads, true) =>
        let more := walkBatches rest
        (threads ++ more.1, more.2)

/-- The refusal that reading on comes to: none when the list ended before. -/
def TaskDirectory.refusal? (directory : TaskDirectory) : Option Errno :=
  if [] ∈ directory.batches then none else directory.readRefused

/-- Lists the threads. A refusal after some threads were visited keeps them; one before any
is a failure. -/
def TaskDirectory.list (directory : TaskDirectory) : Log.Noted Listing :=
  match directory.openRefused with
  | some errno => do
    .note ⟨.error, .threadListing,
      "could not open /proc/self/task: " ++ (IoError.os errno).brief⟩
    return { visited := [], result := .error (.ofErrno errno) }
  | none =>
    match walkBatches directory.batches, directory.refusal? with
    | (threads, false), _ =>
      return { visited := threads, result := .ok (), broken := true }
    | (threads, true), none => return { visited := threads, result := .ok () }
    | (threads, true), some errno => do
      .note ⟨.error, .threadListing,
        "getdents64 on /proc/self/task failed after " ++ Digits.decimal threads.length
          ++ " threads: " ++ (IoError.os errno).brief⟩
      return {
        visited := threads
        result := if threads.isEmpty then .error (.ofErrno errno) else .ok () }

end CrashCapture.Threads
