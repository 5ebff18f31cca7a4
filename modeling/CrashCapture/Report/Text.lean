import CrashCapture.Files.Path
import CrashCapture.Image.Mangled
import CrashCapture.Image.Table
import CrashCapture.Monitor.Event
import CrashCapture.Process.Signal

/-! The text of a report: a line for everything an event knows, and then its backtrace, one
line for every frame with the image and the symbol that the address belongs to.
-/

namespace CrashCapture.Report

/-- How many frames of a backtrace are written. -/
def frameLimit : Nat := 64

/-- The most bytes of a symbol's name that are read, a zero at the end included. -/
def symbolCapacity : Nat := 512

/-- The name of a signal that ends a process. -/
def signalName (signal : Int) : String :=
  ((FatalSignal.ofNumber? signal).map (·.name)).getD "signal"

/-- The last entry of an image's path. -/
def imageText (name : Option (List UInt8)) : String :=
  match name.bind Utf8.decode? with
  | none => "???"
  | some path => Files.lastEntry path

/-- The name of a symbol, cut to what is read of it. -/
def symbolName? (memory : Memory) (symbol : Option Image.StoredText) : Option String :=
  (symbol.bind (·.read? memory symbolCapacity)).bind Utf8.decode?

/-- The symbol of an address, in its readable form, and the distance from it. -/
def symbolText (memory : Memory) (resolution : Image.Resolution) (address : Address)
    (demangle : String → String := Image.Mangled.demangle)
    : String :=
  match resolution.symbolAddress with
  | none => ""
  | some _ =>
    let name :=
      match symbolName? memory resolution.symbolName with
      | some name => demangle name
      | none => "<stripped>"
    " " ++ name
      ++ match resolution.offset? address with
        | some offset => " + " ++ Digits.decimal offset.toNat
        | none => ""

/-- One frame of a backtrace, without its newline. -/
def frameLine (table : Image.Table) (index : Nat) (address : Address)
    (demangle : String → String := Image.Mangled.demangle)
    : Log.Noted String := do
  let start := Digits.decimalAligned 4 index ++ " " ++ address.text
  match ← table.resolve? address with
  | none => return start
  | some resolution =>
    return start ++ " " ++ imageText resolution.imageName
      ++ symbolText table.memory resolution address demangle

/-- The lines of the frames from `index` on; a last one stands for those past the limit. -/
def frameLines (table : Image.Table) (demangle : String → String)
    : (index : Nat) → List Address → Log.Noted (List String)
  | _, [] => return []
  | index, address :: rest =>
    if frameLimit ≤ index then return ["     ..."]
    else do
      let line ← frameLine table index address demangle
      let more ← frameLines table demangle (index + 1) rest
      return line :: more

def exceptionLines (exception : Exception) : List String :=
  ["Exception: " ++ exception.name
    ++ (match exception.language with
      | some language => " [" ++ language ++ "]"
      | none => "")]
    ++ (exception.line.map ("Line:      " ++ ·)).toList
    ++ exception.trace.map ("    " ++ ·)

def registersLine (registers : Stack.Registers) : String :=
  "Registers: pc " ++ registers.pc.text ++ " sp " ++ registers.sp.text
    ++ " fp " ++ registers.fp.text ++ " lr " ++ registers.lr.text

/-- The lines in front of the backtrace. -/
def headLines (event : Event) : List String :=
  let context := event.context
  ["Event:     " ++ event.id.text, "Monitor:   " ++ event.monitor]
    ++ (if event.signal = 0 then []
      else ["Signal:    " ++ signalName event.signal ++ " ("
        ++ Digits.signedDecimal event.signal ++ "), code "
        ++ Digits.signedDecimal event.code])
    ++ (if event.faultAddress.isNull then []
      else ["Address:   " ++ event.faultAddress.text])
    ++ (event.reason.map ("Reason:    " ++ ·)).toList
    ++ (event.exception.map exceptionLines).getD []
    ++ (if event.crashedDuring then
      ["Note:      crashed while handling a previous crash"] else [])
    ++ ["Thread:    " ++ context.thread.text
        ++ (if context.overflowed then " (stack overflow)" else ""),
      "Threads:   " ++ Digits.decimal context.count]
    ++ (if event.registersAreValid then [registersLine context.registers] else [])
    ++ ["Backtrace:"]

/-- A walk of the backtrace from its start: one step more than frames are written, and
whether it gave up on the way. -/
def walk (memory : Memory) (cursor : Stack.Cursor) : List Address × Bool :=
  let steps := (cursor.reset).take memory (frameLimit + 1)
  (steps.1, steps.2.gaveUp)

/-- All lines of a report. -/
def lines (table : Image.Table) (event : Event)
    (demangle : String → String := Image.Mangled.demangle)
    : Log.Noted (List String) := do
  let (frames, gaveUp) := walk table.memory event.cursor
  let shown ← frameLines table demangle 0 frames
  let ending :=
    if gaveUp then
      ["     (stopped at depth limit " ++ Digits.decimal event.cursor.maxDepth ++ ")"]
    else []
  return headLines event ++ shown ++ ending

/-- The text of a report. -/
def text (table : Image.Table) (event : Event)
    (demangle : String → String := Image.Mangled.demangle)
    : Log.Noted String := do
  let lines ← lines table event demangle
  return String.join (lines.map (· ++ "\n"))

end CrashCapture.Report
