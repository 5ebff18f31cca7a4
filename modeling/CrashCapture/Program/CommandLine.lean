import CrashCapture.Program.Command

/-! The command line. Options may stand anywhere behind the command whose they are, and those
for diagnostics before it too; a value may be attached or follow as an argument of its own;
two dashes alone end the options. A value that waits is looked at when the next argument has
shown what it is, so of two mistakes the earlier one is not always the one that is told.
-/

namespace CrashCapture.Program

/-- Why a command line is not understood. The first two ask for a text, and so are no
mistakes. -/
inductive Misuse where
  | help
  | version
  | nothingGiven
  | commandMissing
  | commandUnknown (name : String)
  | argumentUnknown (argument : String)
  | argumentMissing
  | repeated (option : String)
  | valueMissing (option : String)
  | valueUnexpected (option : String)
  | valueNotListed (value : String)
  | valueRejected (value reason : String)
deriving DecidableEq, Repr

def Misuse.name : Misuse → String
  | .help => "DisplayHelp"
  | .version => "DisplayVersion"
  | .nothingGiven => "DisplayHelpOnMissingArgumentOrSubcommand"
  | .commandMissing => "MissingSubcommand"
  | .commandUnknown _ => "InvalidSubcommand"
  | .argumentUnknown _ => "UnknownArgument"
  | .argumentMissing => "MissingRequiredArgument"
  | .repeated _ => "ArgumentConflict"
  | .valueMissing _ => "InvalidValue"
  | .valueUnexpected _ => "TooManyValues"
  | .valueNotListed _ => "InvalidValue"
  | .valueRejected .. => "ValueValidation"

inductive Switch where
  | help
  | version
  | logLevel
  | logFormat
  | logToFile
  | filter
  | depth
  | spawn
  | reportDirectory
  | sigterm
deriving DecidableEq, Repr

/-- The name of an option behind two dashes. -/
def Switch.long : Switch → String
  | .help => "help"
  | .version => "version"
  | .logLevel => "log-level"
  | .logFormat => "log-format"
  | .logToFile => "log-to-file"
  | .filter => "filter"
  | .depth => "depth"
  | .spawn => "spawn"
  | .reportDirectory => "report-dir"
  | .sigterm => "sigterm"

/-- The letter of an option behind one dash. -/
def Switch.short? : Switch → Option Char
  | .help => some 'h'
  | .version => some 'V'
  | .filter => some 'f'
  | .depth => some 'd'
  | .spawn => some 's'
  | _ => none

def Switch.takesValue : Switch → Bool
  | .help | .version | .logToFile | .sigterm => false
  | _ => true

/-- The commands by name. -/
inductive Verb where
  | images
  | resolve
  | backtrace
  | threads
  | crash
deriving DecidableEq, Repr

def Verb.all : List Verb := [.images, .resolve, .backtrace, .threads, .crash]

def Verb.word : Verb → String
  | .images => "images"
  | .resolve => "resolve"
  | .backtrace => "backtrace"
  | .threads => "threads"
  | .crash => "crash"

/-- The word in a command's place that asks for help. -/
def helpWord : String := "help"

def Verb.ofWord? (word : String) : Option Verb := all.find? (fun verb => verb.word = word)

def isCommandWord (word : String) : Bool := (Verb.ofWord? word).isSome || word = helpWord

/-- The options of every command. -/
def generalSwitches : List Switch := [.help, .logLevel, .logFormat, .logToFile]

/-- The options that are understood behind a command, or before one. -/
def switches : Option Verb → List Switch
  | none => .version :: generalSwitches
  | some .images => .filter :: generalSwitches
  | some .resolve => generalSwitches
  | some .backtrace => .depth :: generalSwitches
  | some .threads => .spawn :: generalSwitches
  | some .crash => .reportDirectory :: .sigterm :: generalSwitches

def findLong? (verb : Option Verb) (name : String) : Option Switch :=
  (switches verb).find? (fun option => option.long = name)

def findShort? (verb : Option Verb) (letter : Char) : Option Switch :=
  (switches verb).find? (fun option => option.short? = some letter)

/-- What was given on one level of the command line. -/
structure Given where
  seen : List Switch := []
  logLevel : Option Log.Level := none
  logFormat : Option Log.Format := none
  filter : Option String := none
  depth : Option Nat := none
  spawn : Option Nat := none
  directory : Option String := none
  addresses : List Address := []
  drill : Option Drill := none
deriving DecidableEq, Repr

/-- What waits for the next argument to show what it is. -/
inductive Pending where
  | nothing
  | option (option : Switch) (value : Option String)
  | positional (values : List String)
deriving DecidableEq, Repr

def checked {α : Type} (value : String) (parsed : Except String α) : Except Misuse α :=
  parsed.mapError (.valueRejected value)

def readCount (value : String) : Except Misuse Nat :=
  checked value ((Digits.read 10 UInt64.size value.toList).mapError Digits.Fault.message)

namespace Given

/-- Takes the value of an option. -/
def setValue (given : Given) (option : Switch) (value : String) : Except Misuse Given := do
  match option with
  | .logLevel => return { given with logLevel := ← checked value (Log.Level.parse value) }
  | .logFormat => return { given with logFormat := ← checked value (Log.Format.parse value) }
  | .filter => return { given with filter := value }
  | .depth => return { given with depth := ← readCount value }
  | .spawn => return { given with spawn := ← readCount value }
  | .reportDirectory =>
    if value.isEmpty then throw (.valueMissing option.long)
    else return { given with directory := value }
  | _ => return given

/-- Takes an option; it may not have been given before. -/
def set (given : Given) (option : Switch) (value : Option String) : Except Misuse Given := do
  match option, value with
  | .help, _ => throw .help
  | .version, _ => throw .version
  | _, value =>
    if option.takesValue ∧ value.isNone then throw (.valueMissing option.long)
    else if given.seen.contains option then throw (.repeated option.long)
    else
      let marked := { given with seen := option :: given.seen }
      marked.setValue option (value.getD "")

/-- Takes arguments that stand for themselves. -/
def place (given : Given) (verb : Option Verb) (values : List String)
    : Except Misuse Given := do
  match verb, values with
  | some .crash, value :: _ =>
    match Drill.ofWord? value with
    | some drill => return { given with drill := drill }
    | none => throw (.valueNotListed value)
  | _, values =>
    let addresses ← values.mapM fun value => checked value (parseAddress value)
    return { given with addresses := given.addresses ++ addresses }

/-- Takes what has been waiting. -/
def settle (given : Given) (verb : Option Verb) : Pending → Except Misuse Given
  | .nothing => .ok given
  | .option option value => given.set option value
  | .positional values => given.place verb values

end Given

/-- One level of the command line while it is read. -/
structure Level where
  verb : Option Verb
  given : Given := {}
  pending : Pending := .nothing
  optionsEnded : Bool := false
deriving DecidableEq, Repr

namespace Level

def settle (level : Level) : Except Misuse Level := do
  let given ← level.given.settle level.verb level.pending
  return { level with given := given, pending := .nothing }

/-- Whether an option still waits for its value. -/
def awaitsValue (level : Level) : Bool :=
  match level.pending with
  | .option _ none => true
  | _ => false

/-- An option: with its value, as one that takes none, or waiting for it. -/
def takeOption (level : Level) (option : Switch) (attached : Option String)
    : Except Misuse Level := do
  let settled ← level.settle
  if option.takesValue then
    match attached with
    | some value => return { settled with given := ← settled.given.set option value }
    | none => return { settled with pending := .option option none }
  else return { settled with given := ← settled.given.set option none }

/-- An argument behind two dashes; the name ends at the first equals sign. -/
def takeLong (level : Level) (body : List Char) : Except Misuse Level :=
  let name := String.ofList (body.takeWhile (· ≠ '='))
  let attached := (body.dropWhile (· ≠ '=')).tail?.map String.ofList
  match findLong? level.verb name with
  | none => .error (.argumentUnknown ("--" ++ name))
  | some option =>
    if attached.isSome ∧ !option.takesValue then .error (.valueUnexpected option.long)
    else level.takeOption option attached

/-- Letters behind one dash. The first that takes a value takes the rest for it. -/
def takeShort (level : Level) : List Char → Except Misuse Level
  | [] => .ok level
  | letter :: rest =>
    match findShort? level.verb letter with
    | none => .error (.argumentUnknown ("-" ++ String.ofList [letter]))
    | some option =>
      if option.takesValue then
        let value := match rest with
          | '=' :: value => some value
          | [] => none
          | value => some value
        level.takeOption option (value.map String.ofList)
      else do
        let next ← level.takeOption option none
        next.takeShort rest

/-- An argument that stands for itself. -/
def takePlain (level : Level) (argument : String) : Except Misuse Level := do
  match level.verb, level.pending with
  | none, _ =>
    if level.optionsEnded ∧ isCommandWord argument then throw (.argumentUnknown argument)
    else throw (.commandUnknown argument)
  | some .resolve, .positional values =>
    return { level with pending := .positional (values ++ [argument]) }
  | some .resolve, _ =>
    let settled ← level.settle
    return { settled with pending := .positional [argument] }
  | some .crash, pending =>
    match pending, level.given.drill with
    | .positional _, _ => throw (.argumentUnknown argument)
    | _, some _ => throw (.argumentUnknown argument)
    | _, none =>
      let settled ← level.settle
      return { settled with pending := .positional [argument] }
  | some _, _ => throw (.argumentUnknown argument)

/-- The next argument. -/
def take (level : Level) (argument : String) : Except Misuse Level :=
  if level.optionsEnded then level.takePlain argument
  else
    match argument.toList, level.pending with
    | ['-', '-'], _ => .ok { level with optionsEnded := true }
    | '-' :: '-' :: body, _ => level.takeLong body
    | '-' :: letter :: letters, _ => level.takeShort (letter :: letters)
    | _, .option option none =>
      .ok { level with pending := .option option (some argument) }
    | _, _ => level.takePlain argument

end Level

/-- The words behind the one that asks for help; each has to name a command below the last
one. -/
def readHelp : List String → Misuse
  | [] => .help
  | [word] => if isCommandWord word then .help else .commandUnknown word
  | first :: second :: _ =>
    if isCommandWord first then .commandUnknown second else .commandUnknown first

/-- The arguments before a command, the command, and those behind it. -/
def readBefore (level : Level)
    : List String → Except Misuse (Level × Option (Verb × List String))
  | [] => .ok (level, none)
  | argument :: rest =>
    if level.optionsEnded ∨ level.awaitsValue then do
      readBefore (← level.take argument) rest
    else if argument = helpWord then .error (readHelp rest)
    else
      match Verb.ofWord? argument with
      | some verb => .ok (level, some (verb, rest))
      | none => do readBefore (← level.take argument) rest

/-- The command with what was given for it. -/
def commandOf (verb : Verb) (given : Given) : Except Misuse Command :=
  match verb with
  | .images => .ok (.images given.filter)
  | .resolve =>
    if given.addresses.isEmpty then .error .argumentMissing
    else .ok (.resolve given.addresses)
  | .backtrace => .ok (.backtrace (given.depth.getD Stack.Cursor.defaultMaxDepth))
  | .threads => .ok (.threads (given.spawn.getD 2))
  | .crash =>
    match given.drill with
    | none => .error .argumentMissing
    | some drill => .ok (.crash drill given.directory (given.seen.contains .sigterm))

/-- Reads a command line, the program's own name left out. What is said behind the command
about diagnostics counts more than what is said before it. -/
def parseCommandLine (arguments : List String) : Except Misuse Invocation := do
  let (before, found) ← readBefore { verb := none } arguments
  match found with
  | none =>
    let before ← before.settle
    if before.given.seen.isEmpty then throw .nothingGiven else throw .commandMissing
  | some (verb, rest) =>
    let behind ← (← rest.foldlM Level.take { verb := some verb }).settle
    let command ← commandOf verb behind.given
    let before ← before.settle
    return {
      command := command
      logLevel := behind.given.logLevel <|> before.given.logLevel
      logFormat := behind.given.logFormat <|> before.given.logFormat
      logToFile := behind.given.seen.contains .logToFile
        || before.given.seen.contains .logToFile }

end CrashCapture.Program
