import CrashCapture.Log.Date
import CrashCapture.Program.Run

/-! The program as it is started: it looks at its arguments and its environment, runs, and
leaves behind what the run wrote.
-/

namespace CrashCapture.Program

open Files

/-- The variables that a run may ask for. -/
def variableNames : List String :=
  ["FAULTLINE_LOG_FILE", "FAULTLINE_LOG_FORMAT", "FAULTLINE_MAX_DEPTH", "FAULTLINE_MONITORS",
    "FAULTLINE_SIGTERM", "HOME", "RUST_LOG", "TMPDIR"]

/-- The kernel's directory for the process that looks at it: its name is the number of the
process, and it changes whenever it is looked at. -/
def selfDirectory : String := "/proc/self"

/-- A run without images, on the day and in the process that it is started in. -/
def launchHere : IO Launch := do
  let values ← variableNames.mapM fun name => return (name, ← IO.getEnv name)
  let place ← IO.FS.realPath selfDirectory
  let seconds := (← place.metadata).modified.sec.toNat
  let number := (place.fileName.bind (·.toNat?)).getD 1
  let high ← IO.rand 0 (UInt64.size / 2)
  return {
    around := {
      lookUp := fun name => (values.lookup name).join
      today := (Log.Date.ofDays (seconds / 86400)).text }
    table := ⟨.none, .ofRegions []⟩
    thread := .ofNat number
    ids := fun index => ⟨.ofNat high, .ofNat (index + 1)⟩ }

/-- The files and directories that a run made, with the paths they have outside. -/
def leftBehind (disk : Disk) : List (String × Node) :=
  disk.root.descendants.filterMap fun (place, node) =>
    if place.isPrefixOf disk.working then none
    else if disk.working.isPrefixOf place then
      some (Path.text (Path.ofEntries false (place.drop disk.working.length)), node)
    else some (Path.text (Path.ofEntries true place), node)

/-- Makes a directory, or adds to a file: logs grow from run to run. -/
def leave : String × Node → IO Unit
  | (path, .dir ..) => IO.FS.createDirAll path
  | (path, .file _ data) => do (← IO.FS.Handle.mk path .append).write ⟨data.toArray⟩
  | _ => return ()

/-- The code that tells a shell how a run ended. -/
def exitCode : Ending → UInt32
  | .exit code => .ofNat code
  | .signal number => .ofNat (128 + number)
  | .livelock => 1

end CrashCapture.Program

open CrashCapture.Program in
def main (arguments : List String) : IO UInt32 := do
  let outcome := run (← launchHere) arguments
  (leftBehind outcome.output.disk).forM leave
  IO.print outcome.output.standardOutput
  (← IO.getStderr).write ⟨outcome.output.standardError.toArray⟩
  return exitCode outcome.ending
