import CrashCapture.Memory.Regions
import CrashCapture.Stack.Frame

/-! A stack image: frame records one above the other, each linking to the next. The last
links to nothing.
-/

namespace CrashCapture.Stack

/-- The bytes of a word, least significant first. -/
def wordBytes (word : Nat) : List UInt8 :=
  (List.range 8).map fun index => UInt8.ofNat (word >>> (8 * index))

/-- Records for `count` calls from `base` on; each returns into the code at `code`. -/
def chain (base code count : Nat) : Memory.Region where
  start := base
  data := ((List.range count).flatMap fun index =>
    wordBytes (if index + 1 = count then 0 else base + FrameRecord.size * (index + 1))
      ++ wordBytes (code + 16 * index)).toArray

end CrashCapture.Stack
