import CrashCapture.Monitor.Install
import CrashCapture.Monitor.UserReport
import CrashCapture.Program.Command
import CrashCapture.Report.File

/-! The failures that are brought about on purpose, to see what capture makes of them.
-/

namespace CrashCapture.Program

open Files

/-- How a command ends, when it does not end the process. -/
inductive Finish where
  | over
  | failed (message : String)
  | panicked (text : String)
deriving DecidableEq, Repr

namespace Drill

/-- A write to an address that is not mapped. -/
def unmappedCode : Int := 1

/-- A breakpoint instruction, as the kernel reports it. -/
def breakpointCode : Int := 128

/-- Where the page lies that ends the stack. -/
def guardAddress : Address := .ofNat 0x7FEFFFFFF000

/-- How many calls are in progress when the failure comes. -/
def calls : Drill → Nat
  | .stackOverflow => 600
  | _ => 8

def panicText : String := "faultline panic drill"

/-- The places in the text of the program where its drills fail. -/
structure Places where
  panic : Panic.Place := {}
  report : Panic.Place := {}
deriving DecidableEq, Repr

def userReport (place : Panic.Place) : UserReport where
  name := "DrillError"
  reason := some "user-reported exception drill"
  language := some Panic.exceptionLanguage
  line := some place.lineText
  trace := ["drill::run", "faultline::main"]

def survived : Finish := .failed "the drill did not terminate the process"

/-- Brings the failure about. -/
def trigger (host : Host) (places : Places) : Drill → Action Finish
  | .segv => do
    Trap.fault host .segment { code := unmappedCode } Trap.roundLimit
    return survived
  | .abort => Trap.abort host
  | .trap => do
    Trap.send host .breakpoint { code := breakpointCode }
    return survived
  | .stackOverflow => do
    Trap.fault host .segment { code := unmappedCode, address := guardAddress }
      Trap.roundLimit
    return survived
  | .term => do
    Trap.send host .terminate { code := 0 }
    return survived
  | .panic => do
    Panic.run host { text := some panicText, location := some places.panic }
    return .panicked panicText
  | .user => do
    (userReport places.report).submit host
    Action.say .output "User report delivered; process still running\n"
    return .over

/-- Installs capture and brings the failure about. -/
def run (drill : Drill) (host : Host) (config : Config) (places : Places)
    : Action Finish := do
  match ← config.install host with
  | .error failure => return .failed failure.message
  | .ok active =>
    Action.diagnose .info .program
      ("Triggering " ++ drill.name ++ " with monitors " ++ active.text)
    drill.trigger host places

/-- Makes a directory for reports and accepts it, unless there is one already. -/
def prepareDirectory (disk : Disk) (current : Option Path) (directory : String)
    : Except String (Option Path) × Disk :=
  let path := Path.ofText directory
  let (made, disk) := disk.makePath path
  (match made with
    | .error failure => .error failure.message
    | .ok () => (Report.setDirectory current path).mapError Report.DirectoryFault.message,
    disk)

/-- The configuration of a drill: the environment's, with what the command line changes. -/
def configuration (lookUp : String → Option String) (sigterm : Bool)
    (level : Option Log.Level)
    : Except Failure Config := do
  let config ← Config.ofVariables lookUp
  return { config with
    callback := true
    sigterm := config.sigterm || sigterm
    logLevel := level.getD config.logLevel }

end Drill

end CrashCapture.Program
