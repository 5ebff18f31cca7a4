import CrashCapture.Text.Digits

/-! Addresses of the captured process and the handles of its threads. Arithmetic on an
address wraps at 64 bits unless the operation says that it checks.
-/

namespace CrashCapture

/-- A position in the address space. -/
structure Address where
  value : UInt64
deriving DecidableEq, Repr, Inhabited

namespace Address

def null : Address := ⟨0⟩

def ofNat (n : Nat) : Address := ⟨UInt64.ofNat n⟩

def toNat (a : Address) : Nat := a.value.toNat

def isNull (a : Address) : Bool := a.value = 0

/-- Moves up by `n`, modulo 2^64. -/
def add (a : Address) (n : UInt64) : Address := ⟨a.value + n⟩

/-- Moves down by `n`, modulo 2^64. -/
def sub (a : Address) (n : UInt64) : Address := ⟨a.value - n⟩

/-- Moves up by a length, modulo 2^64. -/
def advance (a : Address) (n : Nat) : Address := a.add (UInt64.ofNat n)

/-- Moves up unless that leaves the address space. -/
def add? (a : Address) (n : UInt64) : Option Address :=
  if a.toNat + n.toNat < UInt64.size then some (a.add n) else none

/-- Moves down unless that leaves the address space. -/
def sub? (a : Address) (n : UInt64) : Option Address :=
  if n.toNat ≤ a.toNat then some (a.sub n) else none

/-- The distance up from `base`; none when `base` lies above. -/
def offsetFrom? (a base : Address) : Option UInt64 :=
  if base.toNat ≤ a.toNat then some (a.value - base.value) else none

/-- An address is written with sixteen hexadecimal digits. -/
def text (a : Address) : String := "0x" ++ Digits.hexPadded 16 a.toNat

end Address

/-- The handle of a thread; zero names none. -/
structure ThreadId where
  value : UInt64
deriving DecidableEq, Repr, Inhabited

namespace ThreadId

def null : ThreadId := ⟨0⟩

def ofNat (n : Nat) : ThreadId := ⟨UInt64.ofNat n⟩

def isNull (t : ThreadId) : Bool := t.value = 0

def text (t : ThreadId) : String := Digits.decimal t.value.toNat

end ThreadId

end CrashCapture
