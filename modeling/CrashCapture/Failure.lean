import CrashCapture.Address
import CrashCapture.Errno

/-! Why an operation of the library fails. Failures are causes; their wording is one
function. The wording that a fault handler may use differs for input and output, where it
shows the bare error number.
-/

namespace CrashCapture

/-- The classes of input and output failures. -/
inductive IoKind where
  | notFound
  | permissionDenied
  | alreadyExists
  | wouldBlock
  | invalidInput
  | invalidData
  | timedOut
  | writeZero
  | interrupted
  | unsupported
  | unexpectedEof
  | outOfMemory
  | brokenPipe
  | addrInUse
  | connectionRefused
  | connectionReset
  | connectionAborted
  | notConnected
  | addrNotAvailable
  | hostUnreachable
  | networkUnreachable
  | networkDown
  | notADirectory
  | isADirectory
  | directoryNotEmpty
  | readOnlyFilesystem
  | filesystemLoop
  | staleNetworkFileHandle
  | storageFull
  | notSeekable
  | quotaExceeded
  | fileTooLarge
  | resourceBusy
  | executableFileBusy
  | deadlock
  | crossesDevices
  | tooManyLinks
  | invalidFilename
  | argumentListTooLong
  | inProgress
  | uncategorized
  | other
deriving DecidableEq, Repr

namespace IoKind

def name : IoKind → String
  | .notFound => "NotFound"
  | .permissionDenied => "PermissionDenied"
  | .alreadyExists => "AlreadyExists"
  | .wouldBlock => "WouldBlock"
  | .invalidInput => "InvalidInput"
  | .invalidData => "InvalidData"
  | .timedOut => "TimedOut"
  | .writeZero => "WriteZero"
  | .interrupted => "Interrupted"
  | .unsupported => "Unsupported"
  | .unexpectedEof => "UnexpectedEof"
  | .outOfMemory => "OutOfMemory"
  | .brokenPipe => "BrokenPipe"
  | .addrInUse => "AddrInUse"
  | .connectionRefused => "ConnectionRefused"
  | .connectionReset => "ConnectionReset"
  | .connectionAborted => "ConnectionAborted"
  | .notConnected => "NotConnected"
  | .addrNotAvailable => "AddrNotAvailable"
  | .hostUnreachable => "HostUnreachable"
  | .networkUnreachable => "NetworkUnreachable"
  | .networkDown => "NetworkDown"
  | .notADirectory => "NotADirectory"
  | .isADirectory => "IsADirectory"
  | .directoryNotEmpty => "DirectoryNotEmpty"
  | .readOnlyFilesystem => "ReadOnlyFilesystem"
  | .filesystemLoop => "FilesystemLoop"
  | .staleNetworkFileHandle => "StaleNetworkFileHandle"
  | .storageFull => "StorageFull"
  | .notSeekable => "NotSeekable"
  | .quotaExceeded => "QuotaExceeded"
  | .fileTooLarge => "FileTooLarge"
  | .resourceBusy => "ResourceBusy"
  | .executableFileBusy => "ExecutableFileBusy"
  | .deadlock => "Deadlock"
  | .crossesDevices => "CrossesDevices"
  | .tooManyLinks => "TooManyLinks"
  | .invalidFilename => "InvalidFilename"
  | .argumentListTooLong => "ArgumentListTooLong"
  | .inProgress => "InProgress"
  | .uncategorized => "Uncategorized"
  | .other => "Other"

def description : IoKind → String
  | .notFound => "entity not found"
  | .permissionDenied => "permission denied"
  | .alreadyExists => "entity already exists"
  | .wouldBlock => "operation would block"
  | .invalidInput => "invalid input parameter"
  | .invalidData => "invalid data"
  | .timedOut => "timed out"
  | .writeZero => "write zero"
  | .interrupted => "operation interrupted"
  | .unsupported => "unsupported"
  | .unexpectedEof => "unexpected end of file"
  | .outOfMemory => "out of memory"
  | .brokenPipe => "broken pipe"
  | .addrInUse => "address in use"
  | .connectionRefused => "connection refused"
  | .connectionReset => "connection reset"
  | .connectionAborted => "connection aborted"
  | .notConnected => "not connected"
  | .addrNotAvailable => "address not available"
  | .hostUnreachable => "host unreachable"
  | .networkUnreachable => "network unreachable"
  | .networkDown => "network down"
  | .notADirectory => "not a directory"
  | .isADirectory => "is a directory"
  | .directoryNotEmpty => "directory not empty"
  | .readOnlyFilesystem => "read-only filesystem or storage medium"
  | .filesystemLoop => "filesystem loop or indirection limit (e.g. symlink loop)"
  | .staleNetworkFileHandle => "stale network file handle"
  | .storageFull => "no storage space"
  | .notSeekable => "seek on unseekable file"
  | .quotaExceeded => "quota exceeded"
  | .fileTooLarge => "file too large"
  | .resourceBusy => "resource busy"
  | .executableFileBusy => "executable file busy"
  | .deadlock => "deadlock"
  | .crossesDevices => "cross-device link or rename"
  | .tooManyLinks => "too many links"
  | .invalidFilename => "invalid filename"
  | .argumentListTooLong => "argument list too long"
  | .inProgress => "in progress"
  | .uncategorized => "uncategorized error"
  | .other => "other error"

def all : List IoKind :=
  [.notFound, .permissionDenied, .alreadyExists, .wouldBlock, .invalidInput, .invalidData,
    .timedOut, .writeZero, .interrupted, .unsupported, .unexpectedEof, .outOfMemory,
    .brokenPipe, .addrInUse, .connectionRefused, .connectionReset, .connectionAborted,
    .notConnected, .addrNotAvailable, .hostUnreachable, .networkUnreachable, .networkDown,
    .notADirectory, .isADirectory, .directoryNotEmpty, .readOnlyFilesystem,
    .filesystemLoop, .staleNetworkFileHandle, .storageFull, .notSeekable, .quotaExceeded,
    .fileTooLarge, .resourceBusy, .executableFileBusy, .deadlock, .crossesDevices,
    .tooManyLinks, .invalidFilename, .argumentListTooLong, .inProgress, .uncategorized,
    .other]

def ofName? (name : String) : Option IoKind := all.find? (fun kind => kind.name = name)

end IoKind

namespace Errno

/-- The numbers that have a class, each with it. -/
def kinds : List (Int × IoKind) := [
  (1, .permissionDenied), (2, .notFound), (4, .interrupted), (7, .argumentListTooLong),
  (11, .wouldBlock), (12, .outOfMemory), (13, .permissionDenied), (16, .resourceBusy),
  (17, .alreadyExists), (18, .crossesDevices), (20, .notADirectory), (21, .isADirectory),
  (22, .invalidInput), (26, .executableFileBusy), (27, .fileTooLarge), (28, .storageFull),
  (29, .notSeekable), (30, .readOnlyFilesystem), (31, .tooManyLinks), (32, .brokenPipe),
  (35, .deadlock), (36, .invalidFilename), (38, .unsupported), (39, .directoryNotEmpty),
  (40, .filesystemLoop), (95, .unsupported), (98, .addrInUse), (99, .addrNotAvailable),
  (100, .networkDown), (101, .networkUnreachable), (103, .connectionAborted),
  (104, .connectionReset), (107, .notConnected), (110, .timedOut),
  (111, .connectionRefused), (113, .hostUnreachable), (115, .inProgress),
  (116, .staleNetworkFileHandle), (122, .quotaExceeded)]

/-- The class of an error number. -/
def kind (e : Errno) : IoKind := (kinds.lookup e.code).getD .uncategorized

/-- A number is of a class that is listed exactly when it is listed with that class. -/
theorem kind_eq_iff {e : Errno} {k : IoKind} (classified : k ≠ .uncategorized)
    : e.kind = k ↔ (e.code, k) ∈ kinds := by
  have listed : ∀ row ∈ kinds, kind ⟨row.1⟩ = row.2 := by decide
  refine ⟨fun same => ?_, fun row => listed _ row⟩
  rw [kind] at same
  cases found : kinds.lookup e.code with
  | none => exact absurd (found ▸ same).symm classified
  | some given =>
      obtain rfl : given = k := by simpa [found] using same
      obtain ⟨before, after, split, _⟩ := List.lookup_eq_some_iff.mp found
      exact split ▸ List.mem_append_right _ List.mem_cons_self

/-- Only one number is of an interrupted request. -/
@[simp]
theorem kind_eq_interrupted_iff {e : Errno} : e.kind = .interrupted ↔ e = .interrupted := by
  obtain ⟨code⟩ := e
  simp [kind_eq_iff, kinds, interrupted]

/-- Only one number is of an invalid request. -/
@[simp]
theorem kind_eq_invalidInput_iff {e : Errno} : e.kind = .invalidInput ↔ e = .invalid := by
  obtain ⟨code⟩ := e
  simp [kind_eq_iff, kinds, invalid]

end Errno

/-- A failed transfer: by error number, by class, or by class with a text of its own. -/
inductive IoError where
  | os (e : Errno)
  | kind (k : IoKind)
  | custom (k : IoKind) (text : String)
deriving DecidableEq, Repr

namespace IoError

def message : IoError → String
  | .os e => e.description ++ " (os error " ++ Digits.signedDecimal e.code ++ ")"
  | .kind k => k.description
  | .custom _ text => text

/-- The class of a failure, that of its error number when it has one. -/
def toKind : IoError → IoKind
  | .os e => e.kind
  | .kind k => k
  | .custom k _ => k

/-- The wording that needs no look-up: the error number, or the class. -/
def brief : IoError → String
  | .os e => "errno " ++ Digits.signedDecimal e.code
  | .kind k => k.name
  | .custom k _ => k.name

end IoError

/-- Why a capture operation failed. -/
inductive Failure where
  | hookInstall (hook reason : String)
  | altStack (reason : String)
  | unsupported (what : String)
  | suspend (thread : ThreadId) (reason : String)
  | resume (thread : ThreadId) (reason : String)
  | resourceExhausted (reason : String)
  | invalidArgument (reason : String)
  | io (error : IoError)
deriving DecidableEq, Repr

namespace Failure

def name : Failure → String
  | .hookInstall .. => "HookInstallFailed"
  | .altStack _ => "AltStackFailed"
  | .unsupported _ => "Unsupported"
  | .suspend .. => "SuspendFailed"
  | .resume .. => "ResumeFailed"
  | .resourceExhausted _ => "ResourceExhausted"
  | .invalidArgument _ => "InvalidArgument"
  | .io _ => "Io"

def message : Failure → String
  | .hookInstall hook reason => "Failed to install handler for " ++ hook ++ ": " ++ reason
  | .altStack reason => "Failed to set up alternate signal stack: " ++ reason
  | .unsupported what => "Unsupported on this platform: " ++ what
  | .suspend thread reason => "Failed to suspend thread " ++ thread.text ++ ": " ++ reason
  | .resume thread reason => "Failed to resume thread " ++ thread.text ++ ": " ++ reason
  | .resourceExhausted reason => "Resource exhausted: " ++ reason
  | .invalidArgument reason => "Invalid argument: " ++ reason
  | .io error => "IO error: " ++ error.message

/-- The wording for a fault handler. -/
def brief : Failure → String
  | .io error => "IO error: " ++ error.brief
  | failure => failure.message

def ofErrno (errno : Errno) : Failure := .io (.os errno)

end Failure

end CrashCapture
