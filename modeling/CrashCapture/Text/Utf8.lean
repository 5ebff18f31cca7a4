/-! Reading UTF-8. A text is valid when every byte belongs to the encoding of a character;
where it is not, each longest start of an encoding that cannot go on counts as one
replacement character.
-/

namespace CrashCapture.Utf8

/-- What a leading byte calls for: how many bytes follow it, and the bounds of the first of
them. -/
structure Lead where
  low : UInt8
  high : UInt8
  tails : Nat
  value : Nat

def lead? (byte : UInt8) : Option Lead :=
  let n := byte.toNat
  if n < 0x80 then some ⟨0x80, 0xBF, 0, n⟩
  else if n < 0xC2 then none
  else if n < 0xE0 then some ⟨0x80, 0xBF, 1, n - 0xC0⟩
  else if n = 0xE0 then some ⟨0xA0, 0xBF, 2, 0⟩
  else if n = 0xED then some ⟨0x80, 0x9F, 2, n - 0xE0⟩
  else if n < 0xF0 then some ⟨0x80, 0xBF, 2, n - 0xE0⟩
  else if n = 0xF0 then some ⟨0x90, 0xBF, 3, 0⟩
  else if n < 0xF4 then some ⟨0x80, 0xBF, 3, n - 0xF0⟩
  else if n = 0xF4 then some ⟨0x80, 0x8F, 3, 4⟩
  else none

/-- Reads the bytes that follow a leading one; stops before the first that cannot. -/
def follow (low high : UInt8) : Nat → Nat → List UInt8 → Option Nat × List UInt8
  | 0, value, rest => (some value, rest)
  | _ + 1, _, [] => (none, [])
  | tails + 1, value, byte :: rest =>
    if low ≤ byte ∧ byte ≤ high then
      follow 0x80 0xBF tails (64 * value + byte.toNat % 64) rest
    else (none, byte :: rest)

theorem follow_length (low high : UInt8) (tails value : Nat) (bytes : List UInt8)
    : (follow low high tails value bytes).2.length ≤ bytes.length := by
  fun_induction follow low high tails value bytes with
  | case1 => exact Nat.le_refl _
  | case2 => exact Nat.le_refl _
  | case3 _ _ _ _ _ _ _ ih =>
    simp only [List.length_cons]
    omega
  | case4 => exact Nat.le_refl _

/-- A character, or bytes that encode none. -/
inductive Piece where
  | char (c : Char)
  | invalid (bytes : List UInt8)
deriving DecidableEq, Repr

/-- The next piece, and the bytes after it. -/
def next (byte : UInt8) (rest : List UInt8) : Piece × List UInt8 :=
  match lead? byte with
  | none => (.invalid [byte], rest)
  | some lead =>
    let followed := follow lead.low lead.high lead.tails lead.value rest
    match followed.1 with
    | some value => (.char (Char.ofNat value), followed.2)
    | none =>
      (.invalid (byte :: rest.take (rest.length - followed.2.length)), followed.2)

theorem next_length (byte : UInt8) (rest : List UInt8)
    : (next byte rest).2.length ≤ rest.length := by
  unfold next
  split
  · exact Nat.le_refl _
  · have := follow_length
    dsimp only
    split <;> exact this _ _ _ _ _

/-- A text piece by piece, in order. -/
def pieces : List UInt8 → List Piece
  | [] => []
  | byte :: rest => (next byte rest).1 :: pieces (next byte rest).2
termination_by bytes => bytes.length
decreasing_by
  have := next_length byte rest
  simp only [List.length_cons]
  omega

def Piece.char? : Piece → Option Char
  | .char c => some c
  | .invalid _ => none

/-- The text, when all of it is valid. -/
def decode? (bytes : List UInt8) : Option String :=
  ((pieces bytes).mapM Piece.char?).map String.ofList

/-- The text with replacement characters where it is not valid. -/
def lossy (bytes : List UInt8) : String :=
  String.ofList ((pieces bytes).map (fun piece => piece.char?.getD '\uFFFD'))

end CrashCapture.Utf8
