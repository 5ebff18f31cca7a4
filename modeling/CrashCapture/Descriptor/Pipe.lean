import CrashCapture.Descriptor.Sink
import CrashCapture.Descriptor.Source

/-! A pipe whose reading end never waits. What is written can be read; reading more than that
is refused while somebody may still write.
-/

namespace CrashCapture.Descriptor

structure Pipe where
  reader : Source
  writer : Sink
deriving DecidableEq, Repr

namespace Pipe

/-- An empty pipe; `broken` is a refusal of every read. -/
def empty (number : Int) (broken : Option Errno) : Pipe where
  reader := { number := number, atEnd := some .wouldBlock, broken := broken }
  writer := { number := number + 1 }

/-- Moves what the writing end received over to the reading end. -/
def settle (pipe : Pipe) (written : Sink) : Pipe where
  reader := { pipe.reader with content := pipe.reader.content ++ written.received }
  writer := { written with received := [] }

/-- Nobody writes any more; a closed descriptor has no number. -/
def closeWriter (pipe : Pipe) : Pipe where
  reader := { pipe.reader with atEnd := none }
  writer := { pipe.writer with number := -1, failing := some (.os .badDescriptor) }

/-- Nobody reads any more, so writing is refused too. A refusal that is there already
stays. -/
def closeReader (pipe : Pipe) : Pipe where
  reader := { pipe.reader with
    number := -1
    broken := some (pipe.reader.broken.getD .badDescriptor) }
  writer := { pipe.writer with
    failing := some (pipe.writer.failing.getD (.os .brokenPipe)) }

end Pipe

end CrashCapture.Descriptor
