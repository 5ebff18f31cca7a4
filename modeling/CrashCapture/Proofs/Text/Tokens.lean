import CrashCapture.Text.Blank
import Mathlib.Data.List.DropRight

/-! Texts that are lists of tokens. A text has one list of tokens with separators between
them; the tokens of two texts with a separator between them are those of both. Trimming takes
all white space from the ends of a token and nothing else.
-/

namespace CrashCapture.Text

variable {separator : Char} {text token core left right : String} {tokens : List String}

-----------------------------------------------------------------------------------------
-- Separators
-----------------------------------------------------------------------------------------

/-- By induction along the text. -/
theorem splitChars_eq_splitOn (separator : Char) (text : List Char)
    : splitChars separator text = text.splitOn separator := by
  induction text with
  | nil => rfl
  | cons c rest ih =>
      rw [splitChars, ih, List.splitOn_cons_eq_if_modifyHead]
      cases pieces : rest.splitOn separator with
      | nil => exact absurd pieces (List.splitOn_ne_nil _ _)
      | cons piece pieces => simp [beq_iff_eq]

/-- Splitting a text is splitting its characters. -/
theorem split_eq_splitOn (separator : Char) (text : String)
    : split separator text = (text.toList.splitOn separator).map String.ofList := by
  rw [split, splitChars_eq_splitOn]

/-- No piece holds the separator, by induction on the text. -/
theorem not_mem_of_mem_splitOn {text piece : List Char} (among : piece ∈ text.splitOn separator)
    : separator ∉ piece := by
  induction text generalizing piece with
  | nil =>
      obtain rfl : piece = [] := by simpa using among
      exact List.not_mem_nil
  | cons c rest ih =>
      rw [List.splitOn_cons_eq_if_modifyHead] at among
      split at among
      · rcases List.mem_cons.mp among with rfl | later
        · exact List.not_mem_nil
        · exact ih later
      next differs =>
        cases pieces : rest.splitOn separator with
        | nil => exact absurd pieces (List.splitOn_ne_nil _ _)
        | cons first others =>
            rw [pieces, List.modifyHead_cons] at among
            rcases List.mem_cons.mp among with rfl | later
            · have unlike : separator ≠ c := fun same => differs (beq_iff_eq.mpr same.symm)
              exact List.not_mem_cons_of_ne_of_not_mem unlike (ih (by simp [pieces]))
            · exact ih (by simp [pieces, later])

/-- The text is written as these tokens with separators between them. -/
structure Consists (separator : Char) (text : String) (tokens : List String) : Prop where
  joined : text = String.intercalate (String.singleton separator) tokens
  plain : ∀ token ∈ tokens, separator ∉ token.toList
  some : tokens ≠ []

/-- A text is written as the tokens that it is split into. -/
theorem consists_split (separator : Char) (text : String)
    : Consists separator text (split separator text) where
  joined := by
    apply String.toList_injective
    rw [String.toList_intercalate, String.toList_singleton, split_eq_splitOn, List.map_map]
    have itself : String.toList ∘ String.ofList = id := funext fun _ => String.toList_ofList
    rw [itself, List.map_id, List.intercalate_splitOn]
  plain token among := by
    rw [split_eq_splitOn] at among
    obtain ⟨piece, found, rfl⟩ := List.mem_map.mp among
    rw [String.toList_ofList]
    exact not_mem_of_mem_splitOn found
  some := by
    rw [split_eq_splitOn]
    exact fun nothing => List.splitOn_ne_nil _ _ (List.map_eq_nil_iff.mp nothing)

/-- There is only one list of tokens that a text is written as. -/
theorem Consists.eq_split (consists : Consists separator text tokens)
    : tokens = split separator text := by
  rw [split_eq_splitOn, consists.joined, String.toList_intercalate, String.toList_singleton,
    List.splitOn_intercalate, List.map_map]
  · have itself : String.ofList ∘ String.toList = id := funext fun _ => String.ofList_toList
    rw [itself, List.map_id]
  · intro piece among
    obtain ⟨token, found, rfl⟩ := List.mem_map.mp among
    exact consists.plain token found
  · exact fun nothing => consists.some (List.map_eq_nil_iff.mp nothing)

/-- Around a separator, the tokens in front come before those behind. -/
theorem split_append (separator : Char) (front rest : String)
    : split separator (front ++ String.singleton separator ++ rest)
      = split separator front ++ split separator rest := by
  simp only [split_eq_splitOn, String.toList_append, String.toList_singleton, List.append_assoc,
    List.singleton_append, List.splitOn_append_cons_self, List.map_append]

/-- Texts in a row have all their tokens in a row, by induction on the texts. -/
theorem split_intercalate (separator : Char) {texts : List String} (some : texts ≠ [])
    : split separator (String.intercalate (String.singleton separator) texts)
      = texts.flatMap (split separator) := by
  induction texts with
  | nil => exact absurd rfl some
  | cons text rest ih =>
      cases rest with
      | nil => simp
      | cons other rest =>
          rw [String.intercalate_cons_cons, split_append, ih (List.cons_ne_nil _ _)]
          rfl

/-- A text without separators is its own token. -/
theorem split_of_not_mem (plain : separator ∉ token.toList) : split separator token = [token] := by
  rw [split_eq_splitOn, List.splitOn_eq_singleton plain, List.map_singleton, String.ofList_toList]

-----------------------------------------------------------------------------------------
-- White space
-----------------------------------------------------------------------------------------

/-- There is nothing but white space. -/
def Blank (text : String) : Prop := ∀ c ∈ text.toList, isBlank c = true

instance (text : String) : Decidable (Blank text) :=
  List.decidableBAll (isBlank · = true) text.toList

/-- The empty text is blank. -/
theorem blank_empty : Blank "" := fun _ among => nomatch among

/-- The token is the core with white space around it, and the core has none at its ends. -/
structure Trimmed (token core : String) : Prop where
  around : ∃ left right, token = left ++ core ++ right ∧ Blank left ∧ Blank right
  starts : ∀ c ∈ core.toList.head?, isBlank c = false
  ends : ∀ c ∈ core.toList.getLast?, isBlank c = false

/-- Trimming drops white space from the front and then from the end. -/
theorem trimChars_eq_rdropWhile (text : List Char)
    : trimChars text = (text.dropWhile isBlank).rdropWhile isBlank := rfl

/-- Nothing is dropped from a text that does not start with white space. -/
theorem dropWhile_eq_self {text : List Char} (starts : ∀ c ∈ text.head?, isBlank c = false)
    : text.dropWhile isBlank = text := by
  cases text with
  | nil => rfl
  | cons c rest => rw [List.dropWhile_cons_of_neg (by simp [starts c rfl])]

/-- What trimming leaves of a text, as characters. -/
theorem toList_trim (token : String)
    : (trim token).toList = (token.toList.dropWhile isBlank).rdropWhile isBlank := by
  rw [trim, String.toList_ofList, trimChars_eq_rdropWhile]

/-- What trimming leaves is the core: what was dropped is blank, and the ends are not. -/
theorem trimmed_trim (token : String) : Trimmed token (trim token) where
  around := by
    refine ⟨.ofList (token.toList.takeWhile isBlank),
      .ofList ((token.toList.dropWhile isBlank).rtakeWhile isBlank), ?_, ?_, ?_⟩
    · apply String.toList_injective
      rw [String.toList_append, String.toList_append, String.toList_ofList,
        String.toList_ofList, toList_trim, List.append_assoc, List.rdropWhile_append_rtakeWhile,
        List.takeWhile_append_dropWhile]
    · intro c among
      rw [String.toList_ofList] at among
      exact List.mem_takeWhile_imp among
    · intro c among
      rw [String.toList_ofList] at among
      exact List.mem_rtakeWhile_imp among
  starts c first := by
    rw [toList_trim] at first
    obtain ⟨rest, split⟩ := List.rdropWhile_prefix isBlank (token.toList.dropWhile isBlank)
    have starts := List.head?_dropWhile_not isBlank token.toList
    rw [← split, List.head?_append, first] at starts
    exact starts
  ends c last := by
    rw [toList_trim, List.rdropWhile, List.getLast?_reverse] at last
    have ends := List.head?_dropWhile_not isBlank (token.toList.dropWhile isBlank).reverse
    rw [last] at ends
    exact ends

/-- Only what trimming leaves is a token's core. -/
theorem Trimmed.eq_trim (trimmed : Trimmed token core) : core = trim token := by
  obtain ⟨⟨left, right, rfl, before, behind⟩, starts, ends⟩ := trimmed
  have front : (core.toList ++ right.toList).dropWhile isBlank
      = if core.toList = [] then [] else core.toList ++ right.toList := by
    split
    next nothing => rw [nothing, List.nil_append, List.dropWhile_eq_nil_iff.mpr behind]
    next some =>
      refine dropWhile_eq_self fun c first => starts c ?_
      rwa [List.head?_append_of_ne_nil _ some] at first
  apply String.toList_injective
  rw [toList_trim, String.toList_append, String.toList_append, List.append_assoc,
    List.dropWhile_append_of_pos before, front]
  split
  next nothing => rw [nothing, List.rdropWhile_nil]
  next some =>
    rw [List.rdropWhile, List.reverse_append,
      List.dropWhile_append_of_pos fun c among => behind c (List.mem_reverse.mp among),
      dropWhile_eq_self fun c last => ends c (by rwa [← List.head?_reverse]), List.reverse_reverse]

/-- The core of a token is what trimming leaves of it. -/
theorem trimmed_iff : Trimmed token core ↔ core = trim token :=
  ⟨Trimmed.eq_trim, fun same => same ▸ trimmed_trim token⟩

/-- White space around a token is not in its core. -/
theorem trim_padded (before : Blank left) (behind : Blank right) (token : String)
    : trim (left ++ token ++ right) = trim token := by
  obtain ⟨⟨first, last, split, blank, clear⟩, starts, ends⟩ := trimmed_trim token
  refine (Trimmed.eq_trim ⟨⟨left ++ first, last ++ right, ?_, ?_, ?_⟩, starts, ends⟩).symm
  · conv_lhs => rw [split]
    simp only [String.append_assoc]
  · intro c among
    rw [String.toList_append] at among
    exact (List.mem_append.mp among).elim (before c) (blank c)
  · intro c among
    rw [String.toList_append] at among
    exact (List.mem_append.mp among).elim (clear c) (behind c)

/-- A separator that is no white space is not in a blank text. -/
theorem not_mem_of_blank (visible : isBlank separator = false) (blank : Blank text)
    : separator ∉ text.toList := fun among => by
  rw [blank separator among] at visible
  cases visible

/-- White space at the ends of a text is in the cores of none of its tokens, by induction on
them: what is in front is around the first one.
-/
theorem map_trim_split_padded (visible : isBlank separator = false) (before : Blank left)
    (behind : Blank right) (text : String)
    : (split separator (left ++ text ++ right)).map trim = (split separator text).map trim := by
  have consists := consists_split separator text
  generalize split separator text = tokens at consists
  obtain ⟨rfl, plain, some⟩ := consists
  induction tokens generalizing left with
  | nil => exact absurd rfl some
  | cons token rest ih =>
      have outside : separator ∉ (left ++ token).toList := by
        rw [String.toList_append, List.mem_append]
        exact not_or.mpr ⟨not_mem_of_blank visible before, plain token List.mem_cons_self⟩
      cases rest with
      | nil =>
          have alone : separator ∉ (left ++ token ++ right).toList := by
            rw [String.toList_append, List.mem_append]
            exact not_or.mpr ⟨outside, not_mem_of_blank visible behind⟩
          rw [String.intercalate_singleton, split_of_not_mem alone, List.map_singleton,
            List.map_singleton, trim_padded before behind]
      | cons other rest =>
          have later := ih blank_empty
            (fun token among => plain token (List.mem_cons_of_mem _ among)) (List.cons_ne_nil _ _)
          rw [String.empty_append] at later
          have first : trim (left ++ token) = trim token := by
            simpa using trim_padded before blank_empty token
          rw [String.intercalate_cons_cons, ← String.append_assoc, ← String.append_assoc,
            String.append_assoc, split_append, split_of_not_mem outside, List.map_append, later,
            List.map_singleton, first]
          rfl

-----------------------------------------------------------------------------------------
-- Letter case
-----------------------------------------------------------------------------------------

/-- A letter from A to Z has its lower case 32 characters behind it. -/
theorem toNat_toLower_cases (c : Char)
    : c.toLower = c ∨ 65 ≤ c.toNat ∧ c.toNat ≤ 90 ∧ c.toLower.toNat = c.toNat + 32 := by
  unfold Char.toLower
  split
  next upper =>
    have bounds : 65 ≤ c.toNat ∧ c.toNat ≤ 90 := upper
    refine .inr ⟨bounds.1, bounds.2, ?_⟩
    show (c.val + 32).toNat = c.val.toNat + 32
    rw [UInt32.toNat_add]
    exact Nat.mod_eq_of_lt (Nat.lt_of_le_of_lt (Nat.add_le_add_right bounds.2 32) (by decide))
  · exact .inl rfl

theorem isBlank_toLower (c : Char) : isBlank c.toLower = isBlank c := by
  rcases toNat_toLower_cases c with same | ⟨least, most, lower⟩
  · rw [same]
  · simp only [isBlank, lower]
    grind

theorem toLower_eq_comma_iff (c : Char) : c.toLower = ',' ↔ c = ',' := by
  rcases toNat_toLower_cases c with same | ⟨least, most, lower⟩
  · rw [same]
  · refine iff_of_false (fun comma => ?_) (fun comma => ?_)
    · have small : c.toNat + 32 = 44 := by rw [← lower, comma]; rfl
      omega
    · rw [comma] at least
      exact absurd least (by decide)

@[simp]
theorem toList_lowerAscii (text : String)
    : (lowerAscii text).toList = text.toList.map Char.toLower := String.toList_ofList

@[simp]
theorem lowerAscii_append (front rest : String)
    : lowerAscii (front ++ rest) = lowerAscii front ++ lowerAscii rest :=
  String.toList_injective (by simp)

theorem lowerAscii_eq_empty_iff : lowerAscii text = "" ↔ text = "" := by
  rw [← String.toList_inj, toList_lowerAscii, String.toList_empty, List.map_eq_nil_iff,
    ← String.toList_empty, String.toList_inj]

theorem Blank.lowerAscii (blank : Blank text) : Blank (lowerAscii text) := by
  intro c among
  rw [toList_lowerAscii] at among
  obtain ⟨d, member, rfl⟩ := List.mem_map.mp among
  rw [isBlank_toLower, blank d member]

theorem trim_lowerAscii (token : String) : trim (lowerAscii token) = lowerAscii (trim token) := by
  obtain ⟨⟨left, right, split, before, behind⟩, starts, ends⟩ := trimmed_trim token
  refine (Trimmed.eq_trim ⟨⟨lowerAscii left, lowerAscii right, ?_, before.lowerAscii,
    behind.lowerAscii⟩, ?_, ?_⟩).symm
  · conv_lhs => rw [split, lowerAscii_append, lowerAscii_append]
  · intro c first
    rw [toList_lowerAscii, List.head?_map] at first
    obtain ⟨d, head, rfl⟩ := Option.map_eq_some_iff.mp first
    rw [isBlank_toLower, starts d head]
  · intro c last
    rw [toList_lowerAscii, List.getLast?_map] at last
    obtain ⟨d, foot, rfl⟩ := Option.map_eq_some_iff.mp last
    rw [isBlank_toLower, ends d foot]

/-- Letter case has no part in where the tokens of a text are, by induction along the text. -/
theorem split_lowerAscii (text : String)
    : split ',' (lowerAscii text) = (split ',' text).map lowerAscii := by
  have pieces (cs : List Char)
      : (cs.map Char.toLower).splitOn ',' = (cs.splitOn ',').map (List.map Char.toLower) := by
    induction cs with
    | nil => rfl
    | cons c rest ih =>
        rw [List.map_cons, List.splitOn_cons_eq_if_modifyHead, List.splitOn_cons_eq_if_modifyHead,
          ih]
        simp only [beq_iff_eq, toLower_eq_comma_iff]
        split
        · rfl
        · cases rest.splitOn ',' <;> rfl
  rw [split_eq_splitOn, split_eq_splitOn, toList_lowerAscii, pieces, List.map_map, List.map_map]
  exact List.map_congr_left fun piece _ => String.toList_injective (by simp)

end CrashCapture.Text
