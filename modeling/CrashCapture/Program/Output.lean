import CrashCapture.Log.Setup
import CrashCapture.Process.State
import CrashCapture.Report.File
import CrashCapture.Report.Text

/-! What is left of a run: files, and what was written to standard output and standard
error. It follows from what happened, in the order in which that happened; the callback of
the program makes a report of every event.
-/

namespace CrashCapture.Program

open Descriptor Files

structure Output where
  setup : Log.Setup := {}
  /-- Where reports go. -/
  directory : Option Path := none
  standardOutput : String := ""
  standardError : List UInt8 := []

namespace Output

def disk (output : Output) : Disk := output.setup.disk

def withDisk (output : Output) (disk : Disk) : Output :=
  { output with setup := { output.setup with disk := disk } }

def say (output : Output) : Channel → String → Output
  | .output, text => { output with standardOutput := output.standardOutput ++ text }
  | .error, text =>
    { output with standardError := output.standardError ++ Text.bytes text }

/-- Writes a line of the fault log. -/
def log (output : Output) (notice : Log.Notice) : Output :=
  { output with
    standardError := output.standardError
      ++ Log.line notice.level notice.origin.path [notice.text] }

def diagnose (output : Output) (diagnostic : Log.Diagnostic) : Output :=
  let (line, setup) := output.setup.emit diagnostic
  ({ output with setup := setup }).say .error (line.getD "")

/-- Makes a report of an event. -/
def report (output : Output) (table : Image.Table) (logger : Log.Logger) (event : Event)
    : Output :=
  let delivered := do
    let lines ← Report.lines table event
    Report.deliver output.disk output.directory event.id { number := 2 } Report.fileSink
      (lines.map (· ++ "\n"))
  let output := (delivered.notices.filter fun notice => logger.isEnabled notice.level).foldl
    log output
  let (delivery, disk) := delivered.value
  { output.withDisk disk with
    standardError := output.standardError ++ delivery.standardError.received }

def tell (output : Output) (table : Image.Table) (logger : Log.Logger)
    : Happening → Output
  | .event event _ => output.report table logger event
  | .handled _ => output
  | .panicked _ => output
  | .logged notice => output.log notice
  | .diagnosed notice => output.diagnose notice.diagnostic
  | .said channel text => output.say channel text

end Output

end CrashCapture.Program
