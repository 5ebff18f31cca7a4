import CrashCapture.Address
import CrashCapture.Config
import CrashCapture.Context
import CrashCapture.Descriptor.Pipe
import CrashCapture.Descriptor.Reader
import CrashCapture.Descriptor.Sink
import CrashCapture.Descriptor.Source
import CrashCapture.Descriptor.Writer
import CrashCapture.Errno
import CrashCapture.EventId
import CrashCapture.Failure
import CrashCapture.Files.Disk
import CrashCapture.Files.Housekeeping
import CrashCapture.Files.Path
import CrashCapture.Files.Tree
import CrashCapture.Image.Command
import CrashCapture.Image.CrashInfo
import CrashCapture.Image.Header
import CrashCapture.Image.Mangled
import CrashCapture.Image.Segment
import CrashCapture.Image.StoredText
import CrashCapture.Image.Symbol
import CrashCapture.Image.Table
import CrashCapture.Log.Date
import CrashCapture.Log.Filter
import CrashCapture.Log.Format
import CrashCapture.Log.Level
import CrashCapture.Log.Line
import CrashCapture.Log.Notice
import CrashCapture.Log.Setup
import CrashCapture.Main
import CrashCapture.Memory.Live
import CrashCapture.Memory.Reader
import CrashCapture.Memory.Regions
import CrashCapture.Monitor.Activation
import CrashCapture.Monitor.AltStack
import CrashCapture.Monitor.Event
import CrashCapture.Monitor.Handlers
import CrashCapture.Monitor.Install
import CrashCapture.Monitor.Panic
import CrashCapture.Monitor.PanicHook
import CrashCapture.Monitor.Pipeline
import CrashCapture.Monitor.Selection
import CrashCapture.Monitor.Trap
import CrashCapture.Monitor.UserReport
import CrashCapture.Process.Reservation
import CrashCapture.Process.Signal
import CrashCapture.Process.State
import CrashCapture.Process.Steps
import CrashCapture.Process.Suspension
import CrashCapture.Program.Command
import CrashCapture.Program.CommandLine
import CrashCapture.Program.Drills
import CrashCapture.Program.Images
import CrashCapture.Program.Output
import CrashCapture.Program.Run
import CrashCapture.Report.Assembly
import CrashCapture.Report.File
import CrashCapture.Report.Text
import CrashCapture.Stack.Chain
import CrashCapture.Stack.Cursor
import CrashCapture.Stack.Frame
import CrashCapture.Stack.OwnThread
import CrashCapture.Text.Blank
import CrashCapture.Text.Digits
import CrashCapture.Text.JsonString
import CrashCapture.Text.Printable
import CrashCapture.Text.Quoted
import CrashCapture.Text.Utf8
import CrashCapture.Threads.Listing
import CrashCapture.Threads.Reserved
import CrashCapture.Proofs.Descriptor.BufferedWriting
import CrashCapture.Proofs.Descriptor.BufferedReading
import CrashCapture.Proofs.Image.Segments
import CrashCapture.Proofs.Image.SymbolSearch
import CrashCapture.Proofs.Stack.CursorSequence
import CrashCapture.Proofs.Image.Resolution
import CrashCapture.Proofs.Process.Ensures
import CrashCapture.Proofs.Monitor.Aside
import CrashCapture.Proofs.Monitor.HandlerAccount
import CrashCapture.Proofs.Monitor.Upkeep
import CrashCapture.Proofs.Monitor.Calls
import CrashCapture.Proofs.Monitor.Switching
import CrashCapture.Proofs.Monitor.HandlerBalance
import CrashCapture.Proofs.Monitor.Deliveries
import CrashCapture.Proofs.Monitor.HandlingFlag
import CrashCapture.Proofs.Text.Bytes
import CrashCapture.Proofs.Files.Places
import CrashCapture.Proofs.Descriptor.Failing
import CrashCapture.Proofs.Report.Announcement
import CrashCapture.Proofs.Text.Ascii
import CrashCapture.Proofs.Text.Digits
import CrashCapture.Proofs.Files.Grafting
import CrashCapture.Proofs.Files.PathEntries
import CrashCapture.Proofs.Files.Routes
import CrashCapture.Proofs.Files.Remains
import CrashCapture.Proofs.Files.Emptying
import CrashCapture.Proofs.Process.Stepwise
import CrashCapture.Proofs.Process.Shares
import CrashCapture.Proofs.Monitor.Strands
import CrashCapture.Proofs.Monitor.FirstFailure
import CrashCapture.Proofs.Monitor.EventIds
import CrashCapture.Proofs.Monitor.Reraising
import CrashCapture.Proofs.Image.Identifiers
import CrashCapture.Proofs.Monitor.Fittings
import CrashCapture.Proofs.Monitor.StackOwner
import CrashCapture.Proofs.Monitor.HookForwarding
import CrashCapture.Proofs.Image.CheckedQueries
import CrashCapture.Proofs.Memory.Contents
import CrashCapture.Proofs.Image.TextSearch
import CrashCapture.Proofs.Image.CommandArea
import CrashCapture.Proofs.Image.SymbolChunks
import CrashCapture.Proofs.Image.ClosestSymbol
import CrashCapture.Proofs.Image.Survey
import CrashCapture.Proofs.Image.CrashRecord
import CrashCapture.Proofs.Image.Extent
import CrashCapture.Proofs.Files.DotPaths
import CrashCapture.Proofs.Descriptor.Retrying
import CrashCapture.Proofs.Memory.Rearranged
import CrashCapture.Proofs.Image.CrashRecordApart
import CrashCapture.Proofs.Image.CopiedCommands
import CrashCapture.Proofs.Image.CommandOrder
import CrashCapture.Proofs.Report.Backtrace
import CrashCapture.Proofs.Threads.Records
import CrashCapture.Proofs.Threads.Roster
import CrashCapture.Proofs.Monitor.RefusedEnabling
import CrashCapture.Proofs.Monitor.HookRemoval
import CrashCapture.Proofs.Memory.LiveCopies
import CrashCapture.Proofs.Memory.ReadableExtent
import CrashCapture.Proofs.Log.CutLines
import CrashCapture.Proofs.Threads.RecordWalk
import CrashCapture.Proofs.Threads.Reservations
import CrashCapture.Proofs.Monitor.ActiveSelection
import CrashCapture.Proofs.Monitor.RefusedInstall
import CrashCapture.Proofs.Text.Encoding
import CrashCapture.Proofs.Report.SymbolNames
import CrashCapture.Proofs.Text.Tokens
import CrashCapture.Proofs.Monitor.NamedSelections
import CrashCapture.Proofs.Text.Numerals
import CrashCapture.Proofs.Program.AddressTexts
import CrashCapture.Proofs.Monitor.AcceptedInstall
import CrashCapture.Proofs.Program.DrillDiagnostics
import CrashCapture.Proofs.Descriptor.WholeTransfers
import CrashCapture.Proofs.Stack.RisingChain
import CrashCapture.Proofs.Report.Paths
