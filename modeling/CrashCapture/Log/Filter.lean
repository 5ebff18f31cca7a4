import CrashCapture.Log.Level
import CrashCapture.Text.Digits

/-! Which diagnostics are shown. A filter is written as directives with commas between them:
a level for everything, or a target with a level for whatever starts with it. The most
specific directive that fits decides, and what no directive fits is not shown.
-/

namespace CrashCapture.Log

/-- How much one directive lets through, and of what. -/
structure Directive where
  /-- What the origin of a diagnostic has to start with. -/
  target : Option String := none
  /-- Without a level nothing passes. -/
  limit : Option Level
  /-- It is about what happens inside spans, of which this program has none. -/
  inSpans : Bool := false
deriving DecidableEq, Repr

namespace Directive

/-- The level that a name or a number stands for; zero and one name stand for none. -/
def limit? (text : String) : Option (Option Level) :=
  let numbered : List (Option Level) :=
    [none, some .error, some .warn, some .info, some .debug, some .trace]
  match Digits.read 10 UInt64.size text.toList with
  | .ok number => numbered[number]?
  | .error _ =>
    let name := Text.lowerAscii text
    if name = "off" then some none
    else
      ([.error, .warn, .info, .debug, .trace] : List Level).find?
          (fun level => Text.lowerAscii level.name = name)
        |>.map some

/-- Whether a directive may start with the character. Outside ASCII all characters count as
letters. -/
def isStart (c : Char) : Bool :=
  c.isAlphanum || ['-', ':', '_', '['].contains c || 0x7F < c.toNat

/-- What follows an equals sign. Nothing there means everything. -/
def readLimit (rest : List Char) : Option (Option Level) :=
  if rest.isEmpty then some (some .trace) else limit? (String.ofList rest)

/-- What follows a span: nothing, or a level. -/
def readAfterSpan : List Char → Option (Option Level)
  | [] => some (some .trace)
  | '=' :: rest => readLimit rest
  | _ => none

/-- What follows an opening bracket: a span's name, fields in braces, the closing bracket,
and then perhaps a level. -/
def readSpan (rest : List Char) : Option (Option Level) :=
  match rest.dropWhile (fun c => c ≠ ']' ∧ c ≠ '\x7b') with
  | ']' :: rest => readAfterSpan rest
  | '\x7b' :: rest =>
    match rest.dropWhile (· ≠ '\x7d') with
    | '\x7d' :: ']' :: rest => readAfterSpan rest
    | _ => none
  | _ => none

/-- Reads one directive. A target alone lets everything through. -/
def read? (text : String) : Option Directive :=
  let cs := (Text.trim text).toList
  if !(cs.head?.any isStart) then none
  else
    let name := cs.takeWhile fun c => c ≠ '=' ∧ c ≠ '['
    let target := String.ofList name
    match cs.drop name.length with
    | [] =>
      match limit? target with
      | some limit => some { limit := limit }
      | none => some { target := some target, limit := some .trace }
    | '=' :: rest => (readLimit rest).map fun limit => { target := some target, limit := limit }
    | _ :: rest =>
      (readSpan rest).map fun limit =>
        { target := if name.isEmpty then none else some target
          limit := limit
          inSpans := true }

def fits (directive : Directive) (origin : String) : Bool :=
  !directive.inSpans && directive.target.all fun target => target.isPrefixOf origin

/-- A longer target is more specific; no target is the least specific. -/
def weight (directive : Directive) : Nat :=
  match directive.target with
  | none => 0
  | some target => target.utf8ByteSize + 1

end Directive

structure Filter where
  directives : List Directive := []
deriving DecidableEq, Repr

namespace Filter

def ofLevel (level : Level) : Filter := ⟨[{ limit := some level }]⟩

/-- Reads a filter; no text at all is a filter that lets nothing through. -/
def parse? (text : String) : Option Filter :=
  if text.isEmpty then some {} else ((Text.split ',' text).mapM Directive.read?).map Filter.mk

/-- The most specific directive that fits; the last one, when a target is named twice. -/
def directive? (filter : Filter) (origin : String) : Option Directive :=
  (filter.directives.filter (·.fits origin)).foldl (fun best directive =>
    match best with
    | none => some directive
    | some other => if other.weight ≤ directive.weight then some directive else some other)
    none

def admits (filter : Filter) (origin : String) (level : Level) : Bool :=
  ((filter.directive? origin).bind (·.limit)).any (·.admits level)

end Filter

end CrashCapture.Log
