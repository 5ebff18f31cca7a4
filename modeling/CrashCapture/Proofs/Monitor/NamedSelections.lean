import CrashCapture.Monitor.Selection
import CrashCapture.Proofs.Text.Tokens
import Mathlib.Logic.Relation

/-! Selections read from text. A text with a comma in it is read as what stands before the
comma united with what stands behind it, so that an accepted text is read as a set of names.
Only of the names that are not known the first one counts.
-/

namespace CrashCapture.Selection

open Text (Blank Consists Trimmed isBlank lowerAscii split trim)

variable {tokens others : List String} {token name : String} {selection chosen : Selection}

-----------------------------------------------------------------------------------------
-- Sets of monitors
-----------------------------------------------------------------------------------------

/-- A monitor is in the union when it is in one of both. -/
theorem contains_union (a b : Selection) (monitor : Monitor)
    : (a.union b).contains monitor = (a.contains monitor || b.contains monitor) := by
  cases monitor <;> rfl

/-- Nothing is in the empty selection. -/
theorem contains_none (monitor : Monitor) : none.contains monitor = false := by
  cases monitor <;> rfl

/-- Selections with the same monitors are equal, flag by flag. -/
theorem eq_of_contains {a b : Selection}
    (same : ∀ monitor, a.contains monitor = true ↔ b.contains monitor = true)
    : a = b := by
  have signals : a.signal = b.signal := Bool.eq_iff_iff.mpr (same .signal)
  have panics : a.panic = b.panic := Bool.eq_iff_iff.mpr (same .panic)
  have users : a.user = b.user := Bool.eq_iff_iff.mpr (same .user)
  cases a
  cases b
  simp_all

/-- Uniting three selections needs no order. -/
theorem union_assoc (a b c : Selection) : (a.union b).union c = a.union (b.union c) := by
  simp only [union, Bool.or_assoc]

-----------------------------------------------------------------------------------------
-- Names
-----------------------------------------------------------------------------------------

/-- The names that are accepted, and what each of them stands for. -/
def accepted : List (String × Selection) := [
  ("signal", { signal := true }),
  ("panic", { panic := true }),
  ("user", { user := true }),
  ("user_reported", { user := true }),
  ("userreported", { user := true }),
  ("all", all),
  ("none", none)]

/-- The names that are read are those accepted, in any letter case. -/
theorem ofName?_eq_some_iff
    : ofName? name = some chosen ↔ (lowerAscii name, chosen) ∈ accepted := by
  unfold ofName? accepted
  dsimp only
  generalize lowerAscii name = word
  simp only [List.mem_cons, Prod.mk.injEq, List.not_mem_nil, or_false]
  split_ifs with signal panic user all none
  case pos => simp [signal, eq_comm]
  case pos => simp [panic, eq_comm]
  case pos => rcases user with rfl | rfl | rfl <;> simp [eq_comm]
  case pos => simp [all, eq_comm]
  case pos => simp [none, eq_comm]
  case neg => simp_all

/-- The token is the name of a selection, in any letter case and with any white space around. -/
def Chooses (token : String) (chosen : Selection) : Prop :=
  ∃ core, Trimmed token core ∧ (lowerAscii core, chosen) ∈ accepted

/-- There is more than white space in the token, and it is not a name. -/
def Unknown (token : String) : Prop :=
  ∃ core, Trimmed token core ∧ core ≠ "" ∧ ∀ chosen, (lowerAscii core, chosen) ∉ accepted

/-- What matters of a token. -/
def word (token : String) : String := lowerAscii (trim token)

/-- A token chooses a selection when what matters of it is accepted as its name. -/
theorem chooses_iff : Chooses token chosen ↔ (word token, chosen) ∈ accepted := by
  simp only [Chooses, Text.trimmed_iff, word, exists_eq_left]

/-- A token is unknown when something of it matters and is no accepted name. -/
theorem unknown_iff
    : Unknown token ↔ word token ≠ "" ∧ ∀ chosen, (word token, chosen) ∉ accepted := by
  simp only [Unknown, Text.trimmed_iff, word, exists_eq_left, ne_eq,
    Text.lowerAscii_eq_empty_iff]

/-- No accepted name is empty. -/
theorem Chooses.word_ne_empty (chooses : Chooses token chosen) : word token ≠ "" := by
  have filled : ∀ entry ∈ accepted, entry.1 ≠ "" := by decide
  exact filled (word token, chosen) (chooses_iff.mp chooses)

/-- A name that is accepted is known. -/
theorem Chooses.not_unknown (chooses : Chooses token chosen) : ¬ Unknown token := fun unknown =>
  (unknown_iff.mp unknown).2 chosen (chooses_iff.mp chooses)

/-- A token chooses one selection at most, since reading it is a function. -/
theorem Chooses.unique {other : Selection} (chooses : Chooses token chosen)
    (also : Chooses token other)
    : other = chosen := by
  rw [chooses_iff, word, ← ofName?_eq_some_iff] at chooses also
  exact Option.some.inj (also.symm.trans chooses)

/-- The selection is what the tokens stand for together; blank ones stand for nothing. -/
structure Unites (tokens : List String) (selection : Selection) : Prop where
  known : ∀ token ∈ tokens, ¬ Unknown token
  contains
    : ∀ monitor,
        selection.contains monitor = true
        ↔ ∃ token ∈ tokens, ∃ chosen, Chooses token chosen ∧ chosen.contains monitor = true

/-- No tokens stand for nothing. -/
theorem unites_nil : Unites [] none where
  known := nofun
  contains monitor := by simp [contains_none]

/-- Nothing but what matters of the tokens decides, and blank ones do not matter. -/
theorem Unites.congr (unites : Unites tokens selection)
    (same : ∀ word ≠ "", word ∈ tokens.map Selection.word ↔ word ∈ others.map Selection.word)
    : Unites others selection where
  known other among unknown := by
    obtain ⟨filled, absent⟩ := unknown_iff.mp unknown
    obtain ⟨token, member, alike⟩ :=
      List.mem_map.mp ((same _ filled).mpr (List.mem_map_of_mem among))
    refine unites.known token member (unknown_iff.mpr ?_)
    rw [alike]
    exact ⟨filled, absent⟩
  contains monitor := by
    rw [unites.contains]
    constructor
    · rintro ⟨token, among, chosen, chooses, holds⟩
      obtain ⟨other, member, alike⟩ :=
        List.mem_map.mp ((same _ chooses.word_ne_empty).mp (List.mem_map_of_mem among))
      rw [chooses_iff, ← alike, ← chooses_iff] at chooses
      exact ⟨other, member, chosen, chooses, holds⟩
    · rintro ⟨other, among, chosen, chooses, holds⟩
      obtain ⟨token, member, alike⟩ :=
        List.mem_map.mp ((same _ chooses.word_ne_empty).mpr (List.mem_map_of_mem among))
      rw [chooses_iff, ← alike, ← chooses_iff] at chooses
      exact ⟨token, member, chosen, chooses, holds⟩

/-- A further name adds its selection. -/
theorem Unites.cons (chooses : Chooses token chosen) (unites : Unites tokens selection)
    : Unites (token :: tokens) (chosen.union selection) where
  known := List.forall_mem_cons.mpr ⟨chooses.not_unknown, unites.known⟩
  contains monitor := by
    rw [contains_union, Bool.or_eq_true, unites.contains, List.exists_mem_cons_iff]
    refine or_congr_left ⟨fun holds => ⟨chosen, chooses, holds⟩, ?_⟩
    rintro ⟨other, also, holds⟩
    exact chooses.unique also ▸ holds

/-- The tokens stand for one selection only. -/
theorem Unites.unique {other : Selection} (unites : Unites tokens selection)
    (also : Unites tokens other)
    : selection = other :=
  eq_of_contains fun monitor => (unites.contains monitor).trans (also.contains monitor).symm

-----------------------------------------------------------------------------------------
-- Reading
-----------------------------------------------------------------------------------------

/-- A token is blank, or not known, or the name of a selection. -/
theorem ofNames_cons (token : String)
    : (word token = "" ∧ ∀ rest, ofNames (token :: rest) = ofNames rest)
      ∨ (Unknown token ∧ ∀ rest, ofNames (token :: rest) = .error (trim token))
      ∨ ∃ chosen,
          Chooses token chosen
          ∧ ∀ rest, ofNames (token :: rest) = (ofNames rest).map chosen.union := by
  by_cases blank : trim token = ""
  · refine .inl ⟨Text.lowerAscii_eq_empty_iff.mpr blank, fun rest => ?_⟩
    rw [ofNames, if_pos (String.isEmpty_iff.mpr blank)]
  · cases named : ofName? (trim token) with
    | none =>
        refine .inr (.inl ⟨unknown_iff.mpr ⟨mt Text.lowerAscii_eq_empty_iff.mp blank, ?_⟩, ?_⟩)
        · intro chosen among
          rw [word, ← ofName?_eq_some_iff, named] at among
          cases among
        · intro rest
          rw [ofNames, if_neg (mt String.isEmpty_iff.mp blank), named]
    | some chosen =>
        refine .inr (.inr ⟨chosen, chooses_iff.mpr (ofName?_eq_some_iff.mp named), ?_⟩)
        intro rest
        rw [ofNames, if_neg (mt String.isEmpty_iff.mp blank), named]

/-- By induction on the tokens in front. -/
theorem ofNames_append (front rest : List String)
    : ofNames (front ++ rest) = do return (← ofNames front).union (← ofNames rest) := by
  induction front with
  | nil =>
      rw [List.nil_append]
      cases ofNames rest <;> rfl
  | cons token front ih =>
      rw [List.cons_append]
      rcases ofNames_cons token with ⟨_, skips⟩ | ⟨_, stops⟩ | ⟨chosen, _, unites⟩
      · rw [skips, skips, ih]
      · rw [stops, stops]
        rfl
      · rw [unites, unites, ih]
        cases ofNames front with
        | error name => rfl
        | ok selection =>
            cases ofNames rest with
            | error name => rfl
            | ok other => exact congrArg Except.ok (union_assoc chosen selection other).symm

/-- By induction on the tokens. -/
theorem unites_of_ofNames (read : ofNames tokens = .ok selection) : Unites tokens selection := by
  induction tokens generalizing selection with
  | nil =>
      obtain rfl : none = selection := Except.ok.inj read
      exact unites_nil
  | cons token rest ih =>
      rcases ofNames_cons token with ⟨blank, skips⟩ | ⟨_, stops⟩ | ⟨chosen, chooses, unites⟩
      · rw [skips] at read
        refine (ih read).congr fun word filled => ?_
        rw [List.map_cons, List.mem_cons, blank, or_iff_right filled]
      · rw [stops] at read
        cases read
      · rw [unites] at read
        cases later : ofNames rest with
        | error name =>
            rw [later] at read
            cases read
        | ok selection =>
            rw [later] at read
            obtain rfl := Except.ok.inj read
            exact (ih later).cons chooses

/-- The first of the tokens that is not known has this core. -/
def Stops (tokens : List String) (name : String) : Prop :=
  ∃ before token after,
    tokens = before ++ token :: after
    ∧ (∀ other ∈ before, ¬ Unknown other)
    ∧ Unknown token
    ∧ Trimmed token name

/-- The first unknown token is at the head, or it is the first one behind a known head. -/
theorem stops_cons {rest : List String}
    : Stops (token :: rest) name
      ↔ Unknown token ∧ Trimmed token name ∨ ¬ Unknown token ∧ Stops rest name := by
  constructor
  · rintro ⟨_ | ⟨_, before⟩, found, after, split, known, unknown, core⟩
    · obtain ⟨rfl, rfl⟩ := List.cons.inj split
      exact .inl ⟨unknown, core⟩
    · obtain ⟨rfl, rfl⟩ := List.cons.inj split
      obtain ⟨first, others⟩ := List.forall_mem_cons.mp known
      exact .inr ⟨first, before, found, after, rfl, others, unknown, core⟩
  · rintro (⟨unknown, core⟩ | ⟨known, before, found, after, rfl, others, unknown, core⟩)
    · exact ⟨[], token, rest, rfl, nofun, unknown, core⟩
    · exact ⟨token :: before, found, after, rfl, List.forall_mem_cons.mpr ⟨known, others⟩,
        unknown, core⟩

/-- By induction on the tokens. -/
theorem ofNames_eq_error_iff : ofNames tokens = .error name ↔ Stops tokens name := by
  induction tokens with
  | nil =>
      refine iff_of_false nofun ?_
      rintro ⟨before, token, after, split, _⟩
      exact List.append_ne_nil_of_right_ne_nil before (List.cons_ne_nil _ _) split.symm
  | cons token rest ih =>
      rw [stops_cons]
      rcases ofNames_cons token with ⟨blank, skips⟩ | ⟨unknown, stops⟩ | ⟨chosen, chooses, unites⟩
      · have known : ¬ Unknown token := fun unknown => (unknown_iff.mp unknown).1 blank
        simp only [skips, ih, known, false_and, false_or, not_false_eq_true, true_and]
      · simp only [stops, unknown, true_and, not_true_eq_false, false_and, or_false,
          Except.error.injEq, Text.trimmed_iff, eq_comm]
      · simp only [unites, chooses.not_unknown, false_and, false_or, not_false_eq_true, true_and,
          ← ih]
        cases ofNames rest with
        | error other => exact Iff.rfl
        | ok selection => exact iff_of_false nofun nofun

/-- Reading succeeds with just the selection that the tokens stand for. -/
theorem ofNames_eq_ok_iff : ofNames tokens = .ok selection ↔ Unites tokens selection := by
  refine ⟨unites_of_ofNames, fun unites => ?_⟩
  cases read : ofNames tokens with
  | ok other => rw [(unites_of_ofNames read).unique unites]
  | error name =>
      obtain ⟨before, token, after, rfl, _, unknown, _⟩ := ofNames_eq_error_iff.mp read
      exact absurd unknown (unites.known token (List.mem_append_right _ List.mem_cons_self))

/-- Where some token is unknown, one of them is the first. -/
theorem exists_stops_iff : (∃ name, Stops tokens name) ↔ ∃ token ∈ tokens, Unknown token := by
  constructor
  · rintro ⟨name, before, token, after, rfl, _, unknown, _⟩
    exact ⟨token, List.mem_append_right _ List.mem_cons_self, unknown⟩
  · rintro ⟨token, among, unknown⟩
    cases read : ofNames tokens with
    | error name => exact ⟨name, ofNames_eq_error_iff.mp read⟩
    | ok selection => exact absurd unknown ((ofNames_eq_ok_iff.mp read).known token among)

-----------------------------------------------------------------------------------------
-- Other lists of tokens with the same names
-----------------------------------------------------------------------------------------

/-- A change to a list of tokens that is none to the names in it. -/
inductive Reworded : List String → List String → Prop
  /-- White space around a token. -/
  | padded (before after : List String) (token : String) {left right : String}
      (leading : Blank left) (trailing : Blank right)
      : Reworded (before ++ token :: after) (before ++ (left ++ token ++ right) :: after)
  /-- Letter case in a token. -/
  | recased (before after : List String) {token other : String}
      (same : lowerAscii token = lowerAscii other)
      : Reworded (before ++ token :: after) (before ++ other :: after)
  /-- A token without a name. -/
  | blank (before after : List String) {token : String} (blank : Blank token)
      : Reworded (before ++ after) (before ++ token :: after)
  /-- A token that is there already. -/
  | repeated (before after : List String) {token : String} (among : token ∈ before ++ after)
      : Reworded (before ++ after) (before ++ token :: after)
  /-- Another order. -/
  | reordered {tokens others : List String} (same : tokens.Perm others) : Reworded tokens others

/-- What matters of a text. -/
def words (text : String) : List String := (split ',' text).map word

/-- White space around a text changes nothing that matters of it. -/
theorem words_padded {left right : String} (leading : Blank left) (trailing : Blank right)
    (text : String)
    : words (left ++ text ++ right) = words text := by
  have through (text : String) : words text = ((split ',' text).map trim).map lowerAscii := by
    rw [List.map_map]
    rfl
  rw [through, Text.map_trim_split_padded rfl leading trailing, ← through]

/-- Letter case changes nothing that matters of a text. -/
theorem words_recased {text other : String} (same : lowerAscii text = lowerAscii other)
    : words text = words other := by
  have through (text : String) : words text = (split ',' (lowerAscii text)).map trim := by
    rw [Text.split_lowerAscii, List.map_map]
    exact List.map_congr_left fun token _ => (Text.trim_lowerAscii token).symm
  rw [through, same, ← through]

/-- All that matters of a blank text is one empty word. -/
theorem words_blank {text : String} (blank : Blank text) : words text = [""] := by
  have same := words_padded blank Text.blank_empty ""
  rw [String.append_empty, String.append_empty] at same
  exact same.trans (by decide)

/-- No change makes a name appear or go. -/
theorem Reworded.mem_words_iff (reworded : Reworded tokens others) {word : String}
    (filled : word ≠ "")
    : word ∈ tokens.flatMap words ↔ word ∈ others.flatMap words := by
  cases reworded with
  | padded before after token leading trailing =>
      simp only [List.flatMap_append, List.flatMap_cons, words_padded leading trailing]
  | recased before after same =>
      simp only [List.flatMap_append, List.flatMap_cons, words_recased same]
  | blank before after blank =>
      simp only [List.flatMap_append, List.flatMap_cons, words_blank blank, List.mem_append,
        List.mem_singleton, filled, false_or]
  | repeated before after among =>
      simp only [List.flatMap_append, List.flatMap_cons, List.mem_append, List.mem_flatMap]
        at among ⊢
      refine ⟨Or.imp_right Or.inr, ?_⟩
      rintro (earlier | here | later)
      · exact .inl earlier
      · exact among.imp (fun member => ⟨_, member, here⟩) fun member => ⟨_, member, here⟩
      · exact .inr later
  | reordered same => exact (same.flatMap_right words).mem_iff

theorem comma_eq_singleton : "," = String.singleton ',' := by decide

theorem parse_eq_ok_iff {text : String}
    : parse text = .ok selection ↔ Unites (split ',' text) selection := ofNames_eq_ok_iff

/-- What a list of texts with commas between them is read as depends on the names in them. -/
theorem parse_intercalate_eq_ok_iff
    : parse (String.intercalate "," tokens) = .ok selection
      ↔ Unites (tokens.flatMap (split ',')) selection := by
  rw [parse_eq_ok_iff]
  cases tokens with
  | nil =>
      have nameless : ∀ word ≠ "", word ∈ (split ',' "").map Selection.word ↔ word ∈ [] := by
        intro word filled
        have none : (split ',' "").map Selection.word = [""] := words_blank Text.blank_empty
        simp [none, filled]
      exact ⟨fun unites => unites.congr nameless,
        fun unites => unites.congr fun word filled => (nameless word filled).symm⟩
  | cons token rest =>
      rw [comma_eq_singleton, Text.split_intercalate ',' (List.cons_ne_nil _ _)]

/-- Neither do any number of changes, made or taken back, by induction on them. -/
theorem mem_words_iff_of_eqvGen (same : Relation.EqvGen Reworded tokens others) {word : String}
    (filled : word ≠ "")
    : word ∈ tokens.flatMap words ↔ word ∈ others.flatMap words := by
  induction same with
  | rel _ _ reworded => exact reworded.mem_words_iff filled
  | refl _ => exact Iff.rfl
  | symm _ _ _ ih => exact ih.symm
  | trans _ _ _ _ _ first second => exact first.trans second

theorem parse_eq_of_eqvGen (same : Relation.EqvGen Reworded tokens others)
    (read : parse (String.intercalate "," tokens) = .ok selection)
    : parse (String.intercalate "," others) = .ok selection := by
  rw [parse_intercalate_eq_ok_iff] at read ⊢
  refine read.congr fun word filled => ?_
  rw [List.map_flatMap, List.map_flatMap]
  exact mem_words_iff_of_eqvGen same filled

theorem parse_append (front rest : String)
    : parse (front ++ "," ++ rest) = do return (← parse front).union (← parse rest) := by
  rw [parse, comma_eq_singleton, Text.split_append, ofNames_append]
  rfl

/-- Of two texts with a comma between them the first one's fault is the fault, else the second
one's, and otherwise both are united. So white space around tokens, letter case, tokens without
a name, repetition and order are nothing to a text that is accepted. Every text has one list of
tokens. It is accepted just if each of them is blank or a name, as all that these names stand for;
and it is refused just if one of them is neither, with the core of the first such token.
-/
theorem parse_unites_tokens
    : (∀ front rest,
        parse (front ++ "," ++ rest) = do return (← parse front).union (← parse rest))
      ∧ (∀ tokens others,
          Relation.EqvGen Reworded tokens others
          → ∀ selection,
              parse (String.intercalate "," tokens) = .ok selection
              ↔ parse (String.intercalate "," others) = .ok selection)
      ∧ ∀ text, ∃ tokens,
          (∀ others, Consists ',' text others ↔ others = tokens)
          ∧ (∀ selection, parse text = .ok selection ↔ Unites tokens selection)
          ∧ ((∃ name, parse text = .error name) ↔ ∃ token ∈ tokens, Unknown token)
          ∧ ∀ name, parse text = .error name ↔ Stops tokens name := by
  refine ⟨parse_append, fun tokens others same selection => ?_, fun text => ?_⟩
  · exact ⟨parse_eq_of_eqvGen same, parse_eq_of_eqvGen (same.symm _ _)⟩
  · refine ⟨split ',' text, fun others => ⟨Consists.eq_split, ?_⟩, fun selection => ?_, ?_, ?_⟩
    · rintro rfl
      exact Text.consists_split ',' text
    · exact parse_eq_ok_iff
    · rw [← exists_stops_iff]
      exact exists_congr fun name => ofNames_eq_error_iff
    · exact fun name => ofNames_eq_error_iff

/-- Two names in the other order, in capitals and between white space, with nothing between two
commas and one name twice.
-/
theorem parse_unites_tokens_of_reworded
    : let tokens := ["signal", "panic"]
      let others := [" PANIC\u00a0", "", "signal", "Signal"]
      Relation.EqvGen Reworded tokens others
      ∧ parse (String.intercalate "," others) = .ok { signal := true, panic := true } := by
  intro tokens others
  have leading : Blank " " := by decide
  have trailing : Blank "\u00a0" := by decide
  have same : Relation.EqvGen Reworded tokens others := by
    refine .trans _ ["panic", "signal"] _ (.rel _ _ (.reordered (.swap _ _ _))) ?_
    refine .trans _ ["PANIC", "signal"] _ (.rel _ _ (.recased [] _ (by decide))) ?_
    refine .trans _ [" PANIC\u00a0", "signal"] _
      (.rel _ _ (.padded [] _ "PANIC" leading trailing)) ?_
    refine .trans _ [" PANIC\u00a0", "", "signal"] _
      (.rel _ _ (.blank [_] _ Text.blank_empty)) ?_
    refine .trans _ [" PANIC\u00a0", "", "signal", "signal"] _
      (.rel _ _ (.repeated [_, _, _] [] (by simp))) ?_
    exact .rel _ _ (.recased [_, _, _] [] (by decide))
  exact ⟨same, (parse_unites_tokens.2.1 tokens others same _).mp (by decide)⟩

end CrashCapture.Selection
