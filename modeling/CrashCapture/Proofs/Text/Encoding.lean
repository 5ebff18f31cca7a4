import CrashCapture.Proofs.Text.Ascii
import CrashCapture.Proofs.Text.Bytes

/-! Reading UTF-8 that was cut. The encoding of a text is read as that text; a front of it is
read as a text just where the cut falls between two characters, for the start of an encoding
that does not go on encodes nothing.
-/

namespace CrashCapture.Utf8

-----------------------------------------------------------------------------------------
-- One character
-----------------------------------------------------------------------------------------

/-- A leading byte that calls for as many bytes as stand behind it, and with which these are
read as a character's number.
-/
structure Encodes (value : Nat) (first : UInt8) (tail : List UInt8) (lead : Lead) : Prop where
  leads : lead? first = some lead
  tails : lead.tails = tail.length
  read
    : ∀ rest,
        follow lead.low lead.high lead.tails lead.value (tail ++ rest) = (some value, rest)

/-- A byte that follows brings six bits. -/
theorem follow_digit {low high : UInt8} {digit : Nat} (small : digit < 64)
    (above : low.toNat ≤ digit + 128) (below : digit + 128 ≤ high.toNat) (tails value : Nat)
    (rest : List UInt8)
    : follow low high (tails + 1) value (UInt8.ofNat (digit + 128) :: rest)
      = follow 0x80 0xBF tails (64 * value + digit) rest := by
  have itself : (UInt8.ofNat (digit + 128)).toNat = digit + 128 := by
    rw [UInt8.toNat_ofNat']
    omega
  have within : low ≤ UInt8.ofNat (digit + 128) ∧ UInt8.ofNat (digit + 128) ≤ high := by
    rw [UInt8.le_iff_toNat_le, UInt8.le_iff_toNat_le, itself]
    exact ⟨above, below⟩
  have bits : (digit + 128) % 64 = digit := by omega
  rw [follow, if_pos within, itself, bits]

/-- A leading byte from 0xC2 on calls for one byte more, from 0xE0 on for two and from 0xF0 on for
three. The least leading byte of two or three leaves out what fewer bytes encode, and two others
leave out surrogates and what lies behind the last character.
-/
theorem exists_lead (number tails value : Nat) {digit : Nat} (small : digit < 64)
    (counted
      : tails = 1 ∧ number = value + 0xC0 ∧ 2 ≤ value ∧ value < 0x20
        ∨ tails = 2 ∧ number = value + 0xE0 ∧ value < 0x10
          ∧ (value = 0 → 0x20 ≤ digit) ∧ (value = 0xD → digit < 0x20)
        ∨ tails = 3 ∧ number = value + 0xF0 ∧ value < 5
          ∧ (value = 0 → 0x10 ≤ digit) ∧ (value = 4 → digit < 0x10))
    : ∃ lead,
        lead? (UInt8.ofNat number) = some lead
        ∧ lead.tails = tails
        ∧ lead.value = value
        ∧ lead.low.toNat ≤ digit + 128
        ∧ digit + 128 ≤ lead.high.toNat := by
  have itself : (UInt8.ofNat number).toNat = number := by
    rw [UInt8.toNat_ofNat']
    omega
  unfold lead?
  simp only [itself]
  split_ifs <;> simp <;> omega

/-- The encoding of a character is one, by the number of its bytes. -/
theorem exists_encodes (c : Char)
    : ∃ first tail lead,
        String.utf8EncodeChar c = first :: tail ∧ Encodes c.toNat first tail lead := by
  have valid : c.toNat < 0xD800 ∨ 0xDFFF < c.toNat ∧ c.toNat < 0x110000 := c.valid
  have value : c.val.toNat = c.toNat := rfl
  rw [String.utf8EncodeChar, value]
  generalize c.toNat = v at *
  have last : v % 64 < 64 := Nat.mod_lt _ (by decide)
  have middle : v / 64 % 64 < 64 := Nat.mod_lt _ (by decide)
  have second : v / 4096 % 64 < 64 := Nat.mod_lt _ (by decide)
  split_ifs with one two three
  · refine ⟨_, [], ⟨0x80, 0xBF, 0, v⟩, rfl, ?_, rfl, fun rest => rfl⟩
    have itself : (UInt8.ofNat v).toNat = v := by
      rw [UInt8.toNat_ofNat']
      omega
    simp only [lead?, itself, if_pos (Nat.lt_succ_of_le one)]
  · obtain ⟨lead, leads, tails, value, above, below⟩ :=
      exists_lead (v / 64 % 32 + 192) 1 (v / 64) last (by omega)
    refine ⟨_, _, lead, rfl, leads, tails, fun rest => ?_⟩
    rw [tails, value, List.cons_append, follow_digit last above below, List.nil_append, follow]
    simp only [Prod.mk.injEq, Option.some.injEq, and_true]
    omega
  · obtain ⟨lead, leads, tails, value, above, below⟩ :=
      exists_lead (v / 4096 % 16 + 224) 2 (v / 4096) middle (by omega)
    refine ⟨_, _, lead, rfl, leads, tails, fun rest => ?_⟩
    rw [tails, value, List.cons_append, follow_digit middle above below, List.cons_append,
      follow_digit last (by simp) (by simp; omega), List.nil_append, follow]
    simp only [Prod.mk.injEq, Option.some.injEq, and_true]
    omega
  · obtain ⟨lead, leads, tails, value, above, below⟩ :=
      exists_lead (v / 262144 % 8 + 240) 3 (v / 262144) second (by omega)
    refine ⟨_, _, lead, rfl, leads, tails, fun rest => ?_⟩
    rw [tails, value, List.cons_append, follow_digit second above below, List.cons_append,
      follow_digit middle (by simp) (by simp; omega), List.cons_append,
      follow_digit last (by simp) (by simp; omega), List.nil_append, follow]
    simp only [Prod.mk.injEq, Option.some.injEq, and_true]
    omega

/-- The encoding of a character is read as that character. -/
theorem next_encoded {c : Char} {first : UInt8} {tail : List UInt8} {lead : Lead}
    (encodes : Encodes c.toNat first tail lead) (rest : List UInt8)
    : next first (tail ++ rest) = (.char c, rest) := by
  simp only [next, encodes.leads, encodes.read rest, Char.ofNat_toNat]

/-- With too few bytes left nothing is read, by induction on them. -/
theorem follow_short {low high : UInt8} {tails value : Nat} {bytes : List UInt8}
    (short : bytes.length < tails)
    : (follow low high tails value bytes).1 = none := by
  fun_induction follow low high tails value bytes with
  | case1 => cases short
  | case2 | case4 => rfl
  | case3 low high tails value byte rest within ih =>
      exact ih (Nat.lt_of_succ_lt_succ short)

/-- The start of an encoding that does not go on encodes nothing. -/
theorem next_cut {number : Nat} {first : UInt8} {tail : List UInt8} {lead : Lead}
    (encodes : Encodes number first tail lead) {count : Nat} (short : count < tail.length)
    : (next first (tail.take count)).1.char? = none := by
  have few : (tail.take count).length < lead.tails := by
    rw [encodes.tails, List.length_take]
    omega
  simp only [next, encodes.leads, follow_short few, Piece.char?]

-----------------------------------------------------------------------------------------
-- A text that was cut
-----------------------------------------------------------------------------------------

/-- The bytes of some characters. -/
def encode (chars : List Char) : List UInt8 := chars.flatMap String.utf8EncodeChar

theorem encode_cons (c : Char) (rest : List Char)
    : encode (c :: rest) = String.utf8EncodeChar c ++ encode rest := List.flatMap_cons

theorem encode_append (front rest : List Char)
    : encode (front ++ rest) = encode front ++ encode rest := List.flatMap_append

theorem length_encode_eq_zero_iff {chars : List Char} : (encode chars).length = 0 ↔ chars = [] := by
  cases chars with
  | nil => exact iff_of_true rfl rfl
  | cons c rest =>
      obtain ⟨first, tail, _, encoding, _⟩ := exists_encodes c
      simp [encode_cons, encoding]

/-- Of a text whose first bytes are taken, characters are read just if these bytes are all of
theirs. By induction along the text: a character whose bytes are all there is read, and one that
was cut is not.
-/
theorem chars_take_iff {chars front : List Char} {limit : Nat}
    : (pieces ((encode chars).take limit)).mapM Piece.char? = some front
      ↔ front <+: chars ∧ (encode front).length = min limit (encode chars).length := by
  induction chars generalizing front limit with
  | nil =>
      have nothing : (pieces ((encode []).take limit)).mapM Piece.char? = some [] := by
        rw [encode, List.flatMap_nil, List.take_nil, pieces]
        rfl
      rw [nothing, Option.some_inj, List.prefix_nil]
      constructor
      · rintro rfl
        exact ⟨rfl, (Nat.min_zero limit).symm⟩
      · exact fun both => both.1.symm
  | cons c rest ih =>
      obtain ⟨first, tail, lead, encoding, encodes⟩ := exists_encodes c
      have whole : encode (c :: rest) = first :: (tail ++ encode rest) := by
        rw [encode_cons, encoding, List.cons_append]
      have front_length (more : List Char)
          : (encode (c :: more)).length = tail.length + 1 + (encode more).length := by
        rw [encode_cons, encoding, List.length_append, List.length_cons]
      rcases Nat.lt_or_ge limit (tail.length + 1) with short | enough
      · cases limit with
        | zero =>
            rw [List.take_zero, pieces, Nat.zero_min, length_encode_eq_zero_iff]
            constructor
            · intro read
              obtain rfl := Option.some.inj read
              exact ⟨List.nil_prefix, rfl⟩
            · rintro ⟨_, rfl⟩
              rfl
        | succ count =>
            have cut : (encode (c :: rest)).take (count + 1) = first :: tail.take count := by
              rw [whole, List.take_succ_cons, List.take_append_of_le_length (by omega)]
            rw [cut, pieces, List.mapM_cons, next_cut encodes (Nat.lt_of_succ_lt_succ short)]
            refine iff_of_false (fun read => by cases read) ?_
            rintro ⟨starts, length⟩
            cases front with
            | nil =>
                rw [front_length, encode, List.flatMap_nil, List.length_nil] at length
                omega
            | cons d more =>
                obtain rfl : d = c := (List.cons_prefix_cons.mp starts).1
                rw [front_length] at length
                omega
      · obtain ⟨left, rfl⟩ := Nat.exists_eq_add_of_le enough
        have all
            : (encode (c :: rest)).take (tail.length + 1 + left)
              = first :: (tail ++ (encode rest).take left) := by
          rw [whole, Nat.add_right_comm, List.take_succ_cons, List.take_length_add_append]
        have read
            : (pieces (first :: (tail ++ (encode rest).take left))).mapM Piece.char?
              = ((pieces ((encode rest).take left)).mapM Piece.char?).map (c :: ·) := by
          rw [pieces, next_encoded encodes, List.mapM_cons]
          dsimp only
          cases (pieces ((encode rest).take left)).mapM Piece.char? <;> rfl
        rw [all, read, front_length, Option.map_eq_some_iff]
        constructor
        · rintro ⟨more, others, rfl⟩
          obtain ⟨starts, length⟩ := ih.mp others
          refine ⟨List.cons_prefix_cons.mpr ⟨rfl, starts⟩, ?_⟩
          rw [front_length, length]
          omega
        · rintro ⟨starts, length⟩
          cases front with
          | nil =>
              rw [encode, List.flatMap_nil, List.length_nil] at length
              omega
          | cons d more =>
              obtain ⟨rfl, others⟩ := List.cons_prefix_cons.mp starts
              rw [front_length] at length
              exact ⟨more, ih.mpr ⟨others, by omega⟩, rfl⟩

/-- A text can be cut between two of its characters, or one of them lies across the cut. By
induction along the text, with as many bytes less to the cut as its first character has.
-/
theorem exists_front_or_across (chars : List Char) (limit : Nat)
    : (∃ front, front <+: chars ∧ (encode front).length = min limit (encode chars).length)
      ∨ ∃ before c rest,
          chars = before ++ c :: rest
          ∧ (encode before).length < limit
          ∧ limit < (encode (before ++ [c])).length := by
  induction chars generalizing limit with
  | nil => exact .inl ⟨[], List.nil_prefix, (Nat.min_zero limit).symm⟩
  | cons c rest ih =>
      have longer (more : List Char)
          : (encode (c :: more)).length = (encode [c]).length + (encode more).length := by
        rw [← List.singleton_append, encode_append, List.length_append]
      rcases Nat.eq_zero_or_pos limit with rfl | positive
      · exact .inl ⟨[], List.nil_prefix, (Nat.zero_min _).symm⟩
      · rcases Nat.lt_or_ge limit (encode [c]).length with inside | beyond
        · exact .inr ⟨[], c, rest, rfl, positive, inside⟩
        · obtain ⟨left, rfl⟩ := Nat.exists_eq_add_of_le beyond
          rcases ih left with ⟨front, starts, length⟩ | ⟨before, d, after, rfl, starts, ends⟩
          · refine .inl ⟨c :: front, List.cons_prefix_cons.mpr ⟨rfl, starts⟩, ?_⟩
            rw [longer front, longer rest, length, Nat.add_min_add_left]
          · refine .inr ⟨c :: before, d, after, rfl, ?_, ?_⟩
            · rw [longer before]
              exact Nat.add_lt_add_left starts _
            · rw [List.cons_append, longer (before ++ [d])]
              exact Nat.add_lt_add_left ends _

/-- The bytes of a text are those of its characters. -/
theorem bytes_eq_encode (text : String) : Text.bytes text = encode text.toList := by
  rw [Text.bytes_eq, ← String.ofList_toList (s := text), String.toByteArray_ofList,
    List.utf8Encode, List.data_toByteArray, String.toList_ofList]
  rfl

end CrashCapture.Utf8

namespace CrashCapture.Text

open Utf8 (bytes_eq_encode encode_append)

variable {limit : Nat} {text front : String}

/-- A text cut to a number of bytes: its front with so many of them, or all of it when there
are no more.
-/
structure CutTo (limit : Nat) (text front : String) : Prop where
  starts : ∃ rest, text = front ++ rest
  length : (bytes front).length = min limit (bytes text).length

/-- A character of the text lies across the cut: of its bytes some are before and some behind. -/
def LiesAcross (limit : Nat) (text : String) : Prop :=
  ∃ before c rest,
    text = before.push c ++ rest
    ∧ (bytes before).length < limit
    ∧ limit < (bytes (before.push c)).length

/-- Nothing is cut from a text that fits. -/
theorem cutTo_iff_of_fits (fits : (bytes text).length ≤ limit)
    : CutTo limit text front ↔ front = text := by
  constructor
  · rintro ⟨⟨rest, rfl⟩, length⟩
    rw [Nat.min_eq_right fits, bytes_append, List.length_append, Nat.left_eq_add] at length
    obtain rfl : rest = "" :=
      bytes_inj ((List.eq_nil_of_length_eq_zero length).trans (bytes_eq "").symm)
    exact String.append_empty.symm
  · rintro rfl
    exact ⟨⟨"", String.append_empty.symm⟩, (Nat.min_eq_right fits).symm⟩

/-- A front of a text ends before a character, or has it too, so that none ends in it. -/
theorem LiesAcross.not_cutTo (across : LiesAcross limit text) : ¬ CutTo limit text front := by
  obtain ⟨before, c, rest, rfl, starts, ends⟩ := across
  rintro ⟨⟨others, same⟩, length⟩
  rw [bytes_append, List.length_append, Nat.min_eq_left (by omega)] at length
  have chars : before.toList ++ c :: rest.toList = front.toList ++ others.toList := by
    simpa using congrArg String.toList same
  rw [bytes_eq_encode] at starts ends length
  rw [String.toList_push] at ends
  rcases List.append_eq_append_iff.mp chars with ⟨more, fronts, behind⟩ | ⟨more, fronts, _⟩
  · cases more with
    | nil =>
        rw [fronts, List.append_nil] at length
        omega
    | cons d more =>
        obtain rfl : c = d := (List.cons.inj behind).1
        rw [fronts, ← List.singleton_append, ← List.append_assoc, encode_append,
          List.length_append] at length
        omega
  · rw [fronts, encode_append, List.length_append] at starts
    omega

/-- A text cannot be cut to a number of bytes just if a character lies across the cut. -/
theorem forall_not_cutTo_iff : (∀ front, ¬ CutTo limit text front) ↔ LiesAcross limit text := by
  refine ⟨fun uncut => ?_, fun across front => across.not_cutTo⟩
  rcases Utf8.exists_front_or_across text.toList limit with ⟨front, ⟨rest, split⟩, length⟩
    | ⟨before, c, rest, split, starts, ends⟩
  · refine absurd ⟨⟨String.ofList rest, ?_⟩, ?_⟩ (uncut (String.ofList front))
    · rw [← String.ofList_append, split, String.ofList_toList]
    · rwa [bytes_eq_encode, bytes_eq_encode, String.toList_ofList]
  · refine ⟨String.ofList before, c, String.ofList rest, ?_, ?_, ?_⟩
    · apply String.toList_injective
      simp [split]
    · rwa [bytes_eq_encode, String.toList_ofList]
    · rwa [bytes_eq_encode, String.toList_push, String.toList_ofList]

end CrashCapture.Text

namespace CrashCapture.Utf8

/-- The first bytes of a text are read as the text that was cut to them, and as none where it
cannot be.
-/
theorem decode?_take_eq_some_iff {text front : String} {limit : Nat}
    : decode? ((Text.bytes text).take limit) = some front ↔ Text.CutTo limit text front := by
  rw [decode?, Option.map_eq_some_iff, bytes_eq_encode]
  constructor
  · rintro ⟨chars, read, rfl⟩
    obtain ⟨⟨rest, split⟩, length⟩ := chars_take_iff.mp read
    refine ⟨⟨String.ofList rest, ?_⟩, ?_⟩
    · rw [← String.ofList_append, split, String.ofList_toList]
    · rwa [bytes_eq_encode, bytes_eq_encode, String.toList_ofList]
  · rintro ⟨⟨rest, rfl⟩, length⟩
    rw [bytes_eq_encode, bytes_eq_encode] at length
    refine ⟨front.toList, chars_take_iff.mpr ⟨?_, length⟩, String.ofList_toList⟩
    rw [String.toList_append]
    exact List.prefix_append _ _

end CrashCapture.Utf8
