import CrashCapture.Text.Utf8
import Mathlib.Tactic.Ring
import Mathlib.Tactic.SplitIfs

/-! ASCII in UTF-8. A character below 128 is encoded by itself alone, so a valid text that
ends in such characters has their bytes at its end, and one whose bytes end in theirs ends in
them.
-/

namespace CrashCapture.Utf8

/-- A character that is encoded by one byte. Nothing else than a zero byte encodes the
character zero, which is left out. -/
def Ascii (c : Char) : Prop := c ≠ '\x00' ∧ c.toNat < 128

-----------------------------------------------------------------------------------------
-- One character
-----------------------------------------------------------------------------------------

/-- What is left behind the bytes that follow a leading one, by induction along them. -/
theorem follow_suffix (low high : UInt8) (tails value : Nat) (bytes : List UInt8)
    : (follow low high tails value bytes).2 <:+ bytes := by
  fun_induction follow low high tails value bytes with
  | case1 | case2 | case4 => exact List.suffix_refl _
  | case3 _ _ _ _ byte _ _ ih => exact ih.trans (List.suffix_cons byte _)

/-- Each byte that follows multiplies what was read before it, by induction along them. -/
theorem le_follow {low high : UInt8} {tails value result : Nat} {bytes : List UInt8}
    (read : (follow low high tails value bytes).1 = some result)
    : value * 64 ^ tails ≤ result := by
  fun_induction follow low high tails value bytes with
  | case1 =>
      cases read
      simp
  | case2 | case4 => cases read
  | case3 _ _ tails value byte _ _ ih =>
      calc
        value * 64 ^ (tails + 1) = 64 * value * 64 ^ tails := by ring
        _ ≤ (64 * value + byte.toNat % 64) * 64 ^ tails := Nat.mul_le_mul_right _ (by omega)
        _ ≤ result := ih read

/-- A leading byte stands alone, or calls for so much that no small character comes out. -/
theorem lead?_cases {byte : UInt8} {lead : Lead} (leads : lead? byte = some lead)
    : (lead.tails = 0 ∧ lead.value = byte.toNat)
      ∨ ∃ tails,
          lead.tails = tails + 1
          ∧ 128 ≤ lead.low.toNat
          ∧ lead.high.toNat < 192
          ∧ 128 ≤ (64 * lead.value + (lead.low.toNat - 128)) * 64 ^ tails := by
  unfold lead? at leads
  dsimp only at leads
  split_ifs at leads <;> cases leads
  · exact Or.inl ⟨rfl, rfl⟩
  all_goals
    refine Or.inr ⟨_, rfl, ?_⟩
    simp only [UInt8.reduceToNat]
    omega

theorem next_suffix (byte : UInt8) (rest : List UInt8) : (next byte rest).2 <:+ rest := by
  unfold next
  split
  · exact List.suffix_refl _
  · dsimp only
    split <;> exact follow_suffix _ _ _ _ _

/-- A small character is read from one byte. -/
theorem next_ascii {byte : UInt8} {rest : List UInt8} {c : Char} (small : Ascii c)
    (read : (next byte rest).1 = .char c)
    : byte = UInt8.ofNat c.toNat ∧ (next byte rest).2 = rest := by
  obtain ⟨nonzero, bound⟩ := small
  have exact_of_small : ∀ value, Char.ofNat value = c → value = c.toNat := by
    intro value made
    by_cases valid : value.isValidChar
    · rw [← made, Char.ofNat, dif_pos valid]
      rfl
    · refine absurd ?_ nonzero
      rw [← made, Char.ofNat, dif_neg valid]
      rfl
  unfold next at read ⊢
  cases leads : lead? byte with
  | none => simp [leads] at read
  | some lead =>
      simp only [leads] at read ⊢
      cases followed : (follow lead.low lead.high lead.tails lead.value rest).1 with
      | none => simp [followed] at read
      | some value =>
          simp only [followed, Piece.char.injEq] at read ⊢
          have same := exact_of_small value read
          rcases lead?_cases leads with ⟨alone, itself⟩ | ⟨tails, more, low, high, large⟩
          · rw [alone, follow] at followed ⊢
            obtain rfl : lead.value = value := Option.some.inj followed
            refine ⟨?_, rfl⟩
            rw [← same, itself, UInt8.ofNat_toNat]
          · rw [more] at followed
            cases rest with
            | nil => cases followed
            | cons first rest =>
                rw [follow] at followed
                split at followed
                next within =>
                  have least := le_follow followed
                  have order : lead.low.toNat ≤ first.toNat ∧ first.toNat ≤ lead.high.toNat :=
                    within
                  have digit : lead.low.toNat - 128 ≤ first.toNat % 64 := by omega
                  have grown :=
                    Nat.mul_le_mul_right (64 ^ tails)
                      (Nat.add_le_add_left digit (64 * lead.value))
                  omega
                next => cases followed

-----------------------------------------------------------------------------------------
-- The end of a text
-----------------------------------------------------------------------------------------

/-- Small characters at the end of a text are its last bytes, and nothing stands before them
where nothing does in the text. By induction along the text: a character before them takes
its bytes away from the front, and of the small ones each takes one.
-/
theorem pieces_ascii_end {bytes : List UInt8} (front ending : List Char)
    (valid : (pieces bytes).mapM Piece.char? = some (front ++ ending))
    (small : ∀ c ∈ ending, Ascii c)
    : ∃ start,
        bytes = start ++ ending.map (fun c => UInt8.ofNat c.toNat)
        ∧ (front = [] → start = []) := by
  fun_induction pieces bytes generalizing front ending with
  | case1 =>
      obtain ⟨rfl, rfl⟩ : front = [] ∧ ending = [] := by simpa using valid
      exact ⟨[], rfl, fun _ => rfl⟩
  | case2 byte rest ih =>
      rw [List.mapM_cons] at valid
      cases first : (next byte rest).1 with
      | invalid => simp [first, Piece.char?] at valid
      | char c =>
          obtain ⟨more, others, whole⟩
              : ∃ more,
                  (pieces (next byte rest).2).mapM Piece.char? = some more
                  ∧ c :: more = front ++ ending := by
            simpa [first, Piece.char?, Option.bind_eq_some_iff] using valid
          cases front with
          | cons _ front =>
              obtain ⟨rfl, rfl⟩ := List.cons.inj whole
              obtain ⟨start, after, _⟩ := ih front ending others small
              obtain ⟨taken, split⟩ := next_suffix byte rest
              refine ⟨byte :: taken ++ start, ?_, fun nothing => nomatch nothing⟩
              rw [← split, after]
              simp
          | nil =>
              obtain rfl : c :: more = ending := whole
              obtain ⟨alone, after⟩ := next_ascii (small c (by simp)) first
              obtain ⟨start, rest_eq, empty⟩ :=
                ih [] more others (fun d among => small d (List.mem_cons_of_mem c among))
              obtain rfl := empty rfl
              refine ⟨[], ?_, fun _ => rfl⟩
              rw [after] at rest_eq
              rw [List.map_cons, ← alone, rest_eq]
              rfl

/-- A small byte never belongs to a character that begins before it, by induction along the bytes
that follow a leading one.
-/
theorem follow_append {low high : UInt8} (tails value : Nat) (front : List UInt8)
    {ending : List Char} (above : 128 ≤ low.toNat) (small : ∀ c ∈ ending, Ascii c)
    : ∃ left,
        (follow low high tails value
            (front ++ ending.map (fun c => UInt8.ofNat c.toNat))).2
          = left ++ ending.map (fun c => UInt8.ofNat c.toNat) := by
  induction tails generalizing low high value front with
  | zero => exact ⟨front, rfl⟩
  | succ tails ih =>
      cases front with
      | nil =>
          refine ⟨[], ?_⟩
          cases ending with
          | nil => rfl
          | cons c more =>
              have bound := (small c List.mem_cons_self).2
              have below : ¬ (low ≤ UInt8.ofNat c.toNat ∧ UInt8.ofNat c.toNat ≤ high) := by
                rintro ⟨reached, _⟩
                rw [UInt8.le_iff_toNat_le, UInt8.toNat_ofNat'] at reached
                omega
              rw [List.nil_append, List.map_cons, follow, if_neg below]
      | cons byte front =>
          rw [List.cons_append, follow]
          split
          · exact ih (64 * value + byte.toNat % 64) front (by decide)
          · exact ⟨byte :: front, rfl⟩

theorem next_append (byte : UInt8) (front : List UInt8) {ending : List Char}
    (small : ∀ c ∈ ending, Ascii c)
    : ∃ left,
        (next byte (front ++ ending.map (fun c => UInt8.ofNat c.toNat))).2
          = left ++ ending.map (fun c => UInt8.ofNat c.toNat) := by
  unfold next
  cases leads : lead? byte with
  | none => exact ⟨front, rfl⟩
  | some lead =>
      have onward
          : ∃ left,
              (follow lead.low lead.high lead.tails lead.value
                  (front ++ ending.map (fun c => UInt8.ofNat c.toNat))).2
                = left ++ ending.map (fun c => UInt8.ofNat c.toNat) := by
        rcases lead?_cases leads with ⟨alone, _⟩ | ⟨tails, _, low, _⟩
        · rw [alone]
          exact ⟨front, rfl⟩
        · exact follow_append _ _ front low small
      dsimp only
      split <;> exact onward

/-- A small byte is read as its character. -/
theorem next_of_ascii {c : Char} (small : Ascii c) (rest : List UInt8)
    : next (UInt8.ofNat c.toNat) rest = (.char c, rest) := by
  have bound := small.2
  have itself : (UInt8.ofNat c.toNat).toNat = c.toNat := by
    rw [UInt8.toNat_ofNat']
    omega
  simp only [next, lead?, itself, if_pos bound, follow, Char.ofNat_toNat]

/-- A valid text whose bytes end in those of small characters ends in these characters, and has
nothing before them where nothing stands before their bytes. By induction along the text.
-/
theorem chars_ascii_end {front : List UInt8} {chars ending : List Char}
    (valid
      : (pieces (front ++ ending.map (fun c => UInt8.ofNat c.toNat))).mapM Piece.char?
        = some chars)
    (small : ∀ c ∈ ending, Ascii c)
    : ∃ start, chars = start ++ ending ∧ (front = [] → start = []) := by
  generalize whole : front ++ ending.map (fun c => UInt8.ofNat c.toNat) = bytes at valid
  fun_induction pieces bytes generalizing front chars ending with
  | case1 =>
      obtain ⟨rfl, nothing⟩ := List.append_eq_nil_iff.mp whole
      obtain rfl := List.map_eq_nil_iff.mp nothing
      obtain rfl : chars = [] := by simpa using valid.symm
      exact ⟨[], rfl, fun _ => rfl⟩
  | case2 byte rest ih =>
      rw [List.mapM_cons] at valid
      obtain ⟨c, first, more, others, rfl⟩
          : ∃ c, (next byte rest).1.char? = some c
              ∧ ∃ more,
                  (pieces (next byte rest).2).mapM Piece.char? = some more ∧ c :: more = chars := by
        simpa [Option.bind_eq_some_iff] using valid
      cases front with
      | cons _ front =>
          obtain ⟨rfl, rfl⟩ := List.cons.inj whole
          obtain ⟨left, behind⟩ := next_append _ front small
          obtain ⟨start, rfl, _⟩ := ih small behind.symm others
          exact ⟨c :: start, rfl, fun nothing => nomatch nothing⟩
      | nil =>
          cases ending with
          | nil => cases whole
          | cons d ending =>
              obtain ⟨rfl, rfl⟩ := List.cons.inj whole
              have here : Ascii d := small d List.mem_cons_self
              have read := next_of_ascii here (ending.map fun c => UInt8.ofNat c.toNat)
              obtain rfl : d = c := by
                rw [read] at first
                exact Option.some.inj first
              obtain ⟨start, rfl, nothing⟩ :=
                @ih [] more ending (fun e among => small e (List.mem_cons_of_mem d among))
                  (congrArg Prod.snd read).symm others
              rw [nothing rfl]
              exact ⟨[], rfl, fun _ => rfl⟩

end CrashCapture.Utf8
