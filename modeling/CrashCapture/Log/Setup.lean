import CrashCapture.Files.Housekeeping
import CrashCapture.Log.Filter
import CrashCapture.Log.Format
import CrashCapture.Log.Notice
import CrashCapture.Text.JsonString

/-! Setting up where diagnostics go: to standard error, to a file, or to both. That can be
done once; the level of the log that fault handlers write is kept in step with it.
-/

namespace CrashCapture.Log

open Files

/-- One thing the program has to say, with the part of it that says so. -/
structure Diagnostic where
  level : Level
  origin : String
  text : String
deriving DecidableEq, Repr

def Notice.diagnostic (notice : Notice) : Diagnostic where
  level := notice.level
  origin := notice.origin.path
  text := notice.text

namespace Diagnostic

/-- A style of a terminal around a text. -/
def styled (style text : String) : String := "\x1b[" ++ style ++ "m" ++ text ++ "\x1b[0m"

/-- The line for people, which a terminal may show in colours. -/
def prettyLine (diagnostic : Diagnostic) (colored : Bool) : String :=
  let paint := if colored then styled else fun _ text => text
  paint "1" diagnostic.level.label ++ " " ++ paint "2" diagnostic.origin ++ ": "
    ++ diagnostic.text

/-- The line for machines. -/
def jsonLine (diagnostic : Diagnostic) : String :=
  "\x7b\"level\":" ++ Text.jsonString diagnostic.level.upper
    ++ ",\"fields\":\x7b\"message\":" ++ Text.jsonString diagnostic.text
    ++ "\x7d,\"target\":" ++ Text.jsonString diagnostic.origin ++ "\x7d"

def line (diagnostic : Diagnostic) (format : Format) (colored : Bool) : String :=
  match format with
  | .pretty => diagnostic.prettyLine colored
  | .json => diagnostic.jsonLine

end Diagnostic

/-- Who takes diagnostics. -/
structure Subscriber where
  format : Format
  filter : Filter
  console : Bool := false
  file : Option Place := none

/-- Why diagnostics could not be set up. -/
inductive SetupFault where
  | format (message : String)
  | path (path : Path)
  | file (error : IoError)
  | taken
deriving DecidableEq, Repr

def SetupFault.name : SetupFault → String
  | .format _ => "InvalidFormat"
  | .path _ => "InvalidPath"
  | .file _ => "FileError"
  | .taken => "InitializationFailed"

def SetupFault.message : SetupFault → String
  | .format message => "Invalid log format: " ++ message
  | .path given => "Invalid log file path: " ++ given.text
  | .file error => "File logging error: " ++ error.message
  | .taken =>
    "Failed to initialize logging: a global default trace dispatcher has already been set"

/-- What is set up, the level of the fault log, and the files. -/
structure Setup where
  subscriber : Option Subscriber := none
  level : Level := .warn
  disk : Disk := .fresh

/-- What the program starts with. -/
structure Surrounding where
  /-- The variables of the environment. -/
  lookUp : String → Option String := fun _ => none
  today : String := ""

namespace Setup

def directoryMode : Nat := 0o755

def fileMode : Nat := 0o644

/-- Opens a log file and makes the directories above it. A file that is kept for a day has
the date behind its name. -/
def openFile (setup : Setup) (path : Path) (date : Option String)
    : Except SetupFault Place × Setup :=
  match path.fileName? with
  | none => (.error (.path path), setup)
  | some name =>
    match setup.disk.makeTree directoryMode path.directory with
    | (.error error, disk) => (.error (.file error), { setup with disk := disk })
    | (.ok (), disk) =>
      let name := name ++ (date.map fun date => Text.bytes ("." ++ date)).getD []
      match disk.openAtEnd (path.directory.join name) fileMode with
      | .error error => (.error (.file error), { setup with disk := disk })
      | .ok (place, disk) => (.ok place, { setup with disk := disk })

/-- Puts a subscriber in place, unless there is one. The level changes first. -/
def subscribe (setup : Setup) (level : Level) (subscriber : Subscriber)
    : Except SetupFault Bool × Setup :=
  match setup.subscriber with
  | some _ => (.error .taken, { setup with level := level })
  | none =>
    (.ok subscriber.file.isSome,
      { setup with level := level, subscriber := some subscriber })

/-- Diagnostics to standard error, and to the file that the environment names. The answer is
whether there is a file. -/
def toConsole (setup : Setup) (around : Surrounding) (format : Format) (level : Level)
    (filter : Filter)
    : Except SetupFault Bool × Setup :=
  match around.lookUp "FAULTLINE_LOG_FILE" with
  | none => setup.subscribe level { format := format, filter := filter, console := true }
  | some path =>
    match setup.openFile (Path.ofText path) (some around.today) with
    | (.error fault, setup) => (.error fault, setup)
    | (.ok place, setup) =>
      setup.subscribe level
        { format := format, filter := filter, console := true, file := some place }

/-- Everything as the environment wants it. Only a bare level there sets the level of the
fault log. -/
def fromEnvironment (setup : Setup) (around : Surrounding)
    : Except SetupFault Bool × Setup :=
  match (around.lookUp "FAULTLINE_LOG_FORMAT").elim (.ok default) Format.parse with
  | .error message => (.error (.format message), setup)
  | .ok format =>
    let wish := around.lookUp "RUST_LOG"
    let level := (wish.bind Level.ofText?).getD .info
    setup.toConsole around format level
      ((wish.bind Filter.parse?).getD (.ofLevel level))

/-- A level and a format that were chosen otherwise. -/
def withLevel (setup : Setup) (around : Surrounding) (level : Level) (format : Format)
    : Except SetupFault Bool × Setup :=
  setup.toConsole around format level (.ofLevel level)

/-- Diagnostics to one file only. Without a level the environment's filter counts. -/
def toFile (setup : Setup) (around : Surrounding) (path : Path) (level : Option Level)
    (format : Format)
    : Except SetupFault Bool × Setup :=
  let filter :=
    match level with
    | some level => .ofLevel level
    | none =>
      ((around.lookUp "RUST_LOG").bind Filter.parse?).getD (.ofLevel .info)
  match setup.openFile path none with
  | (.error fault, setup) => (.error fault, setup)
  | (.ok place, setup) =>
    setup.subscribe (level.getD .info)
      { format := format, filter := filter, file := some place }

/-- Shows a diagnostic: the line for standard error, if it goes there, and the files
afterwards. -/
def emit (setup : Setup) (diagnostic : Diagnostic) : Option String × Setup :=
  match setup.subscriber with
  | none => (none, setup)
  | some subscriber =>
    if subscriber.filter.admits diagnostic.origin diagnostic.level then
      let line := fun colored => diagnostic.line subscriber.format colored ++ "\n"
      (if subscriber.console then some (line true) else none,
        match subscriber.file with
        | none => setup
        | some place =>
          { setup with disk := setup.disk.append place (Text.bytes (line false)) })
    else (none, setup)

end Setup

/-- The directory of log files below the home directory. -/
def logDirectory : String := ".faultline"

/-- The dated log file of a program: below the home directory, else among the temporary
files. -/
def defaultFile (around : Surrounding) (program : String) : Path :=
  let directory :=
    match around.lookUp "HOME" with
    | some home => (Path.ofText home).join (Text.bytes logDirectory)
    | none => Path.ofText ((around.lookUp "TMPDIR").getD "/tmp")
  directory.join (Text.bytes (around.today ++ "-" ++ program ++ ".log"))

end CrashCapture.Log
