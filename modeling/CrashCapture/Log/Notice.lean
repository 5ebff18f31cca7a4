import CrashCapture.Log.Line

/-! What the library has to say about its own work. A notice names the part that speaks;
a computation with notices carries them beside its value, so that the value alone can be
reasoned about.
-/

namespace CrashCapture.Log

/-- The part of the program that a notice comes from. -/
inductive Origin where
  | descriptor
  | buffered
  | files
  | imageWalk
  | crashInfo
  | images
  | context
  | suspension
  | threadListing
  | monitors
  | signalMonitor
  | panicMonitor
  | userMonitor
  | config
  | program
deriving DecidableEq, Repr

/-- The origin as log lines spell it. -/
def Origin.path : Origin → String
  | .descriptor => "faultline_core::io::fd"
  | .buffered => "faultline_core::io::buffered"
  | .files => "faultline_core::io::files"
  | .imageWalk => "faultline_core::images::macho"
  | .crashInfo => "faultline_core::images::crash_info"
  | .images => "faultline_core::images"
  | .context => "faultline_core::context"
  | .suspension => "faultline_core::context::threads"
  | .threadListing => "faultline_core::platform::linux::threads"
  | .monitors => "faultline_core::monitors"
  | .signalMonitor => "faultline_core::monitors::signal"
  | .panicMonitor => "faultline_core::monitors::panic"
  | .userMonitor => "faultline_core::monitors::user"
  | .config => "faultline_core::config"
  | .program => "faultline"

structure Notice where
  level : Level
  origin : Origin
  text : String
deriving DecidableEq, Repr

/-- The line a logger writes for a notice, without its newline; none when it is silent. -/
def Logger.show? (logger : Logger) (notice : Notice) : Option (List UInt8) :=
  match logger.write notice.level notice.origin.path [notice.text] with
  | [] => none
  | bytes => some bytes.dropLast

/-- A value and the notices that were given on the way to it. -/
structure Noted (α : Type) where
  value : α
  notices : List Notice := []

namespace Noted

def note (notice : Notice) : Noted Unit := ⟨(), [notice]⟩

instance : Monad Noted where
  pure value := ⟨value, []⟩
  bind first next :=
    let second := next first.value
    ⟨second.value, first.notices ++ second.notices⟩

@[simp]
theorem value_pure {α : Type} (a : α) : (pure a : Noted α).value = a := rfl

@[simp]
theorem value_bind {α β : Type} (first : Noted α) (next : α → Noted β)
    : (first >>= next).value = (next first.value).value := rfl

@[simp]
theorem notices_pure {α : Type} (a : α) : (pure a : Noted α).notices = [] := rfl

@[simp]
theorem notices_note (notice : Notice) : (note notice).notices = [notice] := rfl

@[simp]
theorem notices_bind {α β : Type} (first : Noted α) (next : α → Noted β)
    : (first >>= next).notices = first.notices ++ (next first.value).notices := rfl

end Noted

end CrashCapture.Log
