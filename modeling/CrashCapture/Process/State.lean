import CrashCapture.Log.Notice
import CrashCapture.Monitor.Event
import CrashCapture.Monitor.Selection
import CrashCapture.Process.Signal
import CrashCapture.Process.Steps
import CrashCapture.Threads.Reserved

/-! All of a process that capture reads or changes: what is installed for each signal, the
hook that panics run, what every thread has registered and blocked, the monitors' settings,
and in `happenings`, in order, what the rest of the world gets to see.
-/

namespace CrashCapture

/-- What the process does with a signal. -/
inductive Disposition where
  | standard
  | ignored
  /-- The handler of the signal monitor. -/
  | capture
  /-- The handler that tells a stack that is used up from other faults. -/
  | guard
  /-- A handler of the program's own. -/
  | own (handler : Nat)
deriving DecidableEq, Repr

/-- What is installed before the program starts. -/
def Disposition.atStart : FatalSignal → Disposition
  | .pipe => .ignored
  | .segment => .guard
  | .bus => .guard
  | _ => .standard

/-- What runs first in a panic. -/
inductive PanicHook where
  | standard
  /-- The hook of the panic monitor. -/
  | capture
  /-- A hook of the program's own. -/
  | own
deriving DecidableEq, Repr

/-- How many replaced dispositions can be kept. -/
def savedCapacity : Nat := 16

/-- The dispositions that the monitor's handler replaced, and how many of the slots are in
use. -/
structure HandlerTable where
  slots : Vector (Option (FatalSignal × Disposition)) savedCapacity :=
    Vector.replicate savedCapacity none
  installed : Nat := 0
deriving DecidableEq, Repr

/-- What belongs to one thread alone. A stack is known by the address where it starts. -/
structure ThreadState where
  /-- The stack that the kernel switches to for handlers that ask for it. -/
  altStack : Option Address := none
  onAltStack : Bool := false
  blocked : List FatalSignal := []
  pending : List FatalSignal := []
  /-- Panics that have not been caught yet. -/
  panics : Nat := 0
  inPanicHook : Bool := false
deriving DecidableEq, Repr

/-- How a process ends. -/
inductive Ending where
  | exit (code : Nat)
  | signal (number : Nat)
  /-- It does not: a signal goes back to the handler that raised it, again and again. -/
  | livelock
deriving DecidableEq, Repr

/-- Where the program itself writes. -/
inductive Channel where
  | output
  | error
deriving DecidableEq, Repr

/-- What the rest of the world gets to see. -/
inductive Happening where
  /-- An event was delivered; it may carry the identifier of the signal monitor. -/
  | event (event : Event) (ofSignals : Bool)
  | handled (signal : FatalSignal)
  /-- The program's own hook saw a panic, which may carry a text. -/
  | panicked (text : Option String)
  /-- A line in the log that fault handlers write. -/
  | logged (notice : Log.Notice)
  /-- A diagnostic, which the program's settings may show or not. -/
  | diagnosed (notice : Log.Notice)
  /-- Something that the program itself says. -/
  | said (channel : Channel) (text : String)

structure Process where
  enabled : Selection := .none
  callback : Bool := false
  sigterm : Bool := false
  maxDepth : Nat := Stack.Cursor.defaultMaxDepth
  /-- The identifier that the next event of the signal monitor carries. -/
  signalId : EventId := .nil
  /-- How many identifiers were made. -/
  issued : Nat := 0
  /-- A fatal failure is being handled. -/
  handling : Bool := false
  crashedDuring : Bool := false
  asyncSafety : Bool := false
  unhandled : Bool := false
  dispositions : FatalSignal → Disposition := fun _ => .standard
  table : HandlerTable := {}
  /-- The stack mapped for handlers. -/
  altStack : Option Address := none
  /-- What the thread that registered it had before. -/
  previousStack : Option Address := none
  mapped : List Address := []
  /-- How many stacks were mapped. -/
  mappings : Nat := 0
  hook : PanicHook := .standard
  previousHook : Option PanicHook := none
  hookInstalled : Bool := false
  reserved : Threads.Reserved := .empty
  suspensionNoted : Bool := false
  logger : Log.Logger := {}
  threads : ThreadId → ThreadState := fun _ => {}
  happenings : List Happening := []
  ending : Option Ending := none

/-- Steps of a process. -/
abbrev Action := Steps Process

namespace Process

def record (process : Process) (happening : Happening) : Process :=
  { process with happenings := process.happenings ++ [happening] }

/-- Writes to the log of fault handlers, when it takes lines of that level. -/
def log (process : Process) (notice : Log.Notice) : Process :=
  if process.logger.isEnabled notice.level then process.record (.logged notice)
  else process

def setDisposition (process : Process) (signal : FatalSignal) (new : Disposition)
    : Process :=
  { process with
    dispositions := fun s => if s = signal then new else process.dispositions s }

def updateThread (process : Process) (thread : ThreadId)
    (change : ThreadState → ThreadState)
    : Process :=
  { process with
    threads := fun t =>
      if t = thread then change (process.threads thread) else process.threads t }

end Process

namespace Action

open Log (Level Origin)

def record (happening : Happening) : Action Unit := .modify (·.record happening)

def log (level : Level) (origin : Origin) (text : String) : Action Unit :=
  .modify (·.log ⟨level, origin, text⟩)

def diagnose (level : Level) (origin : Origin) (text : String) : Action Unit :=
  record (.diagnosed ⟨level, origin, text⟩)

def say (channel : Channel) (text : String) : Action Unit := record (.said channel text)

/-- A computation that reads the world around; its notices go to the log. -/
def hear {α : Type} (noted : Log.Noted α) : Action α :=
  .step (fun process => noted.notices.foldl Process.log process) fun _ =>
    .done noted.value

/-- Ends the process. -/
def finish {α : Type} (ending : Ending) : Action α :=
  .step (fun process => { process with ending := some ending }) fun _ => .halted

end Action

/-- The kernel's answers to the calls that may be refused. -/
structure Kernel where
  mapStack : Option Errno := none
  guardStack : Option Errno := none
  registerStack : Option Errno := none
  install : FatalSignal → Option Errno := fun _ => none
  restore : FatalSignal → Option Errno := fun _ => none
  /-- Where the stacks start that are mapped one after the other. -/
  placement : Nat → Address := fun index => .ofNat (0x7F0000000000 + 0x20000 * index)

/-- What surrounds capture: the thread that runs, the world it sees, and the program that is
watched. -/
structure Host where
  surroundings : Surroundings
  /-- The registers at a fault. -/
  registers : Stack.Registers := {}
  /-- Where the frame records of the running code start. -/
  framePointer : Address := .null
  /-- Whether an address lies in the page that ends the stack. -/
  isGuarded : Address → Bool := fun _ => false
  kernel : Kernel := {}
  /-- The identifiers that are made one after the other. -/
  ids : Nat → EventId := fun index => ⟨0, UInt64.ofNat (index + 1)⟩
  /-- The program's callback, which may change the event. -/
  onEvent : Event → Action Event := fun event => do
    let ofSignals ← .ask (fun process => decide (process.signalId = event.id))
    Action.record (.event event ofSignals)
    return event
  onSignal : Nat → FatalSignal → Action Unit := fun _ signal =>
    Action.record (.handled signal)
  onPanic : Option String → Action Unit := fun text => Action.record (.panicked text)

namespace Host

/-- The thread that runs. -/
def thread (host : Host) : ThreadId := host.surroundings.currentThread

/-- Looks at the running thread. -/
def askThread {α : Type} (host : Host) (look : ThreadState → α) : Action α :=
  .ask fun process => look (process.threads host.thread)

def modifyThread (host : Host) (change : ThreadState → ThreadState) : Action Unit :=
  .modify fun process => process.updateThread host.thread change

/-- Makes an identifier. -/
def issue (host : Host) : Action EventId :=
  .exchange (fun process => host.ids process.issued)
    (fun process => { process with issued := process.issued + 1 })

end Host

end CrashCapture
