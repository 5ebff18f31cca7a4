import CrashCapture.Memory.Live
import CrashCapture.Program.CommandLine
import CrashCapture.Program.Drills
import CrashCapture.Program.Images
import CrashCapture.Program.Output
import CrashCapture.Stack.Chain

/-! The program from its command line to its end. Diagnostics are set up first, then the
command is carried out, and an error of either is told on standard error.
-/

namespace CrashCapture.Program

open Files

/-- What the standard hook says of a panic. -/
def panicLines (text : Option String) (place : Panic.Place := {}) : String :=
  "\nthread 'main' panicked at " ++ place.text ++ ":\n" ++ text.getD Panic.otherPayload ++ "\n"

/-- What the program is started with, and the world that it is started in. -/
structure Launch where
  around : Log.Surrounding := {}
  disk : Disk := .fresh
  table : Image.Table
  /-- The first thread. Those that are started later have the numbers that follow. -/
  thread : ThreadId
  copyFaults : Memory.CopyFaults := {}
  tasks : List ThreadId → Threads.TaskDirectory := .ofThreads
  kernel : Kernel := {}
  dispositions : FatalSignal → Disposition := .atStart
  ids : Nat → EventId
  places : Drill.Places := {}
  onSignal : Nat → FatalSignal → Action Unit := fun _ _ => return ()
  onPanic : Option String → Action Unit := fun text =>
    Action.say .error (panicLines text places.panic)

/-- Where the frame records of the program start, and the code that they return into. -/
def stackBase : Nat := 0x7FF000000000
def codeBase : Nat := 0x400000

namespace Launch

/-- The threads of a program that started `extra` more. -/
def threads (launch : Launch) (extra : Nat) : List ThreadId :=
  (List.range (extra + 1)).map fun index =>
    ⟨launch.thread.value + UInt64.ofNat index⟩

/-- The program's first thread, with so many calls on its stack and so many threads beside
it. -/
def host (launch : Launch) (calls extra : Nat) : Host where
  surroundings := {
    currentThread := launch.thread
    memory := Memory.live launch.copyFaults
      (.ofRegions [Stack.chain stackBase codeBase calls])
    tasks := launch.tasks (launch.threads extra) }
  registers := { pc := .ofNat codeBase, sp := .ofNat stackBase, fp := .ofNat stackBase }
  framePointer := .ofNat stackBase
  isGuarded := (· = Drill.guardAddress)
  kernel := launch.kernel
  ids := launch.ids
  onSignal := launch.onSignal
  onPanic := launch.onPanic

def process (launch : Launch) (level : Log.Level) : Process where
  dispositions := launch.dispositions
  logger := { level := level }

end Launch

def sayLines (lines : List String) : Action Unit :=
  Action.say .output (String.join (lines.map (· ++ "\n")))

def listImages (table : Image.Table) (filter : Option String) : Action Unit := do
  let (lines, shown) ← Action.hear (imageListing table filter)
  sayLines lines
  match shown with
  | none => return ()
  | some count =>
    Action.diagnose .info .program
      ("Listed " ++ Digits.decimal count ++ " of " ++ Digits.decimal table.source.count
        ++ " images")

/-- A thread with its registers, as far as they are known. -/
def threadLine (current : ThreadId) (context : Context) : String :=
  (if context.thread = current then "* " else "  ")
    ++ Digits.decimalAligned 8 context.thread.value.toNat
    ++ (if context.canHaveRegisters ∧ !context.registers.isEmpty then
      " pc " ++ context.registers.pc.text ++ " sp " ++ context.registers.sp.text
    else " (no register state)")

def listThreads (host : Host) : Action Finish := do
  let listing ← Action.hear host.surroundings.tasks.list
  match listing.result with
  | .error failure => return .failed failure.message
  | .ok () =>
    Action.say .output
      (Digits.decimal listing.visited.length ++ " threads (suspension "
        ++ (if Suspension.isSupported then "supported" else "unsupported") ++ ")\n")
    let suspension ← Suspension.begin
    let contexts ← Action.hear
      (listing.visited.mapM fun thread =>
        Context.captureThread host.surroundings {} thread false)
    suspension.resume
    sayLines (contexts.map (threadLine host.thread))
    return .over

/-- Carries a command out. A drill needs to be configured. -/
def perform (host : Host) (table : Image.Table) (config : Config) (places : Drill.Places)
    : Command → Action Finish
  | .images filter => do
    listImages table filter
    return .over
  | .resolve addresses => do
    sayLines (← Action.hear (resolvedLines table addresses))
    return .over
  | .backtrace depth => do
    let frames := (Panic.ownCursor host 0 depth).drain host.surroundings.memory
    sayLines (← Action.hear (resolvedLines table frames.1))
    return .over
  | .threads _ => listThreads host
  | .crash drill _ _ => drill.run host config places

/-- A command's end, and all that is left of it. -/
structure Outcome where
  finish : Option Finish := none
  output : Output
  ending : Ending

/-- Everything that a command needs before it is carried out: a drill's configuration, and
the directory of its reports. -/
def prepare (launch : Launch) (invocation : Invocation) (disk : Disk)
    : Except String (Config × Option Path) × Disk :=
  match invocation.command with
  | .crash _ directory sigterm =>
    match directory.elim (.ok none, disk) (Drill.prepareDirectory disk none) with
    | (.error message, disk) => (.error message, disk)
    | (.ok path, disk) =>
      (((Drill.configuration launch.around.lookUp sigterm invocation.logLevel).mapError
        Failure.message).map fun config => (config, path), disk)
  | _ => (.ok ({}, none), disk)

/-- How many calls a command makes, and how many threads it starts. -/
def Command.extent : Command → Nat × Nat
  | .threads spawn => (8, spawn)
  | .crash drill _ _ => (drill.calls, 0)
  | _ => (8, 0)

/-- Carries out the command, with diagnostics set up. One thread writes the log file, when
there is one. -/
def runCommand (launch : Launch) (invocation : Invocation) (output : Output) : Outcome :=
  match prepare launch invocation output.disk with
  | (.error message, disk) =>
    { finish := some (.failed message)
      output := output.withDisk disk
      ending := .exit 1 }
  | (.ok (config, directory), disk) =>
    let (calls, spawn) := invocation.command.extent
    let writers := (output.setup.subscriber.any (·.file.isSome)).toNat
    let host := launch.host calls (writers + spawn)
    let (finish, process) :=
      (perform host launch.table config launch.places invocation.command).run
        (launch.process output.setup.level)
    let table := { launch.table with memory := host.surroundings.memory }
    { finish := finish
      output := process.happenings.foldl
        (fun output happening => output.tell table process.logger happening)
        { output.withDisk disk with directory := directory }
      ending :=
        match finish with
        | some .over => .exit 0
        | some (.failed _) => .exit 1
        | some (.panicked _) => .exit 101
        | none => process.ending.getD .livelock }

/-- Sets diagnostics up as the command line and the environment want them, and tells which
file was chosen. -/
def setUpDiagnostics (launch : Launch) (invocation : Invocation)
    : Except Log.SetupFault Bool × Output :=
  let setup : Log.Setup := { disk := launch.disk }
  if invocation.logToFile then
    let path := Log.defaultFile launch.around "faultline"
    match setup.toFile launch.around path invocation.logLevel invocation.format with
    | (.error fault, setup) => (.error fault, { setup := setup })
    | (.ok hasFile, setup) =>
      (.ok hasFile,
        ({ setup := setup } : Output).say .error ("Logging to " ++ path.text ++ "\n"))
  else
    let (result, setup) :=
      match invocation.logLevel with
      | some level => setup.withLevel launch.around level invocation.format
      | none => setup.fromEnvironment launch.around
    (result, { setup := setup })

/-- A run that ends with one text. -/
def closing (output : Output) (code : Nat) (channel : Channel) (text : String) : Outcome where
  output := output.say channel text
  ending := .exit code

def versionText : String := "faultline 0.0.0\n"

def usage : String :=
  "Usage: faultline [--log-level LEVEL] [--log-format FORMAT] [--log-to-file] "
    ++ "images|resolve|backtrace|threads|crash ...\n"

/-- The program from its command line to its end. -/
def run (launch : Launch) (arguments : List String) : Outcome :=
  let output : Output := { setup := { disk := launch.disk } }
  match parseCommandLine arguments with
  | .error .version => closing output 0 .output versionText
  | .error .help => closing output 0 .output usage
  | .error _ => closing output 2 .error usage
  | .ok invocation =>
    match setUpDiagnostics launch invocation with
    | (.error fault, output) =>
      closing output 1 .error ("Failed to initialize logging: " ++ fault.message ++ "\n")
    | (.ok _, output) =>
      let outcome := runCommand launch invocation output
      match outcome.finish with
      | some (.failed message) =>
        { outcome with output := outcome.output.say .error ("Error: " ++ message ++ "\n") }
      | _ => outcome

end CrashCapture.Program
