import CrashCapture.Proofs.Image.ClosestSymbol
import CrashCapture.Proofs.Image.CrashRecord
import CrashCapture.Proofs.Memory.Checked
import CrashCapture.Proofs.Memory.LiveCopies
import CrashCapture.Proofs.Text.Encoding
import CrashCapture.Report.Text

/-! The names of symbols in a backtrace. The name that was found for an address stands in memory
and is copied into a buffer of bytes, which cuts a longer one wherever the buffer ends. The front
of the name that is shown is therefore there only when a character ends with the last byte that
the buffer takes; a name with a character across the cut is reported as if there were none.
-/

namespace CrashCapture

namespace Image

variable {memory : Memory} {byte? : Nat → Option UInt8}

-----------------------------------------------------------------------------------------
-- Names that were found
-----------------------------------------------------------------------------------------

/-- What is left of a text behind some of its bytes stands in memory with it. -/
theorem StoredText.StandsFrom.behind {text : StoredText} (stands : text.StandsFrom byte? 0)
    {count : Nat} (within : count ≤ text.length)
    : StandsFrom byte? 0 ⟨text.address.advance count, text.length - count⟩ where
  reached := Nat.zero_le _
  nonzero place _ before := by
    rw [Address.advance_advance]
    exact stands.nonzero (count + place) (Nat.zero_le _) (Nat.add_lt_of_lt_sub' before)
  ended := by
    rw [Address.advance_advance, Nat.add_sub_cancel' within]
    exact stands.ended

/-- The name of an entry stands in memory, with its underscore or without. -/
theorem SymbolTable.Names.standsFrom (shows : memory.Shows byte?) {table : SymbolTable}
    {entry : SymbolEntry} {text : StoredText} (names : table.Names memory entry (some text))
    : text.StandsFrom byte? 0 := by
  cases names with
  | plain _ _ found _ => exact (StoredText.standsFrom_of_find? shows found).2.2
  | underscored _ _ found some_bytes _ =>
      exact (StoredText.standsFrom_of_find? shows found).2.2.behind
        (Nat.one_le_iff_ne_zero.mpr some_bytes)

/-- The name that an address is resolved to stands in memory. -/
theorem Table.standsFrom_of_resolve? {table : Table} (shows : table.memory.Shows byte?)
    {address : Address} {resolution : Resolution} {text : StoredText}
    (resolved : (table.resolve? address).value = some resolution)
    (named : resolution.symbolName = some text)
    : text.StandsFrom byte? 0 := by
  cases resolvesTo_iff.mpr resolved with
  | @resolved index _ header linkEdit _ _ _ =>
      obtain ⟨found, symbol, name⟩ := Option.bind_eq_some_iff.mp named
      cases symbolFor_iff.mpr symbol with
      | found _ _ _ matched =>
          obtain ⟨_, _, _, _, names⟩ := matched
          rw [name] at names
          exact names.standsFrom shows

end Image

namespace Report

variable {memory : Memory} {byte? : Nat → Option UInt8}

-----------------------------------------------------------------------------------------
-- Names that are shown
-----------------------------------------------------------------------------------------

/-- What is shown of a name is read from the bytes of it that the buffer takes. -/
theorem symbolName?_eq (bytewise : memory.Bytewise byte?) {text : Image.StoredText}
    (inside : text.address.toNat + text.length < UInt64.size) {bytes : List UInt8}
    (consists : text.Consists byte? bytes)
    : symbolName? memory (some text) = Utf8.decode? (bytes.take (symbolCapacity - 1)) := by
  rw [symbolName?, Option.bind_some, consists.read?_take bytewise inside (by decide),
    Option.bind_some]

/-- The line of a frame for which a symbol was found, with what it says of the name. -/
def symbolLine (index : Nat) (address : Address) (resolution : Image.Resolution)
    (said : String)
    : String :=
  Digits.decimalAligned 4 index ++ " " ++ address.text
    ++ " " ++ imageText resolution.imageName ++ " " ++ said
    ++ match resolution.offset? address with
      | some offset => " + " ++ Digits.decimal offset.toNat
      | none => ""

theorem frameLine_value_of_symbol {table : Image.Table} {address symbol : Address}
    {resolution : Image.Resolution}
    (resolved : (table.resolve? address).value = some resolution)
    (found : resolution.symbolAddress = some symbol) (index : Nat) (demangle : String → String)
    : (frameLine table index address demangle).value
      = symbolLine index address resolution
          (((symbolName? table.memory resolution.symbolName).map demangle).getD "<stripped>") := by
  simp only [frameLine, Log.Noted.value_bind, resolved, Log.Noted.value_pure, symbolText, found,
    symbolLine, String.append_assoc]
  cases symbolName? table.memory resolution.symbolName <;> rfl

theorem symbolLine_inj {index : Nat} {address : Address} {resolution : Image.Resolution}
    {said other : String}
    : symbolLine index address resolution said = symbolLine index address resolution other
      ↔ said = other := by
  rw [symbolLine, symbolLine, String.append_left_inj, String.append_right_inj]

/-- Whatever the images and the memory hold and however names are made readable, the line of a
frame for which a symbol was found shows the symbol's name in its readable form, cut to the 511
bytes that the buffer takes in front of a zero. Nothing is cut from a name that fits. If a
character lies across the cut, the line calls the symbol stripped, just as it does when there is
no name at all.
-/
theorem frameLine_shows_cut_name {table : Image.Table} (bytewise : table.memory.Bytewise byte?)
    (unmapped : byte? 0 = none) {address symbol : Address} {resolution : Image.Resolution}
    (resolved : (table.resolve? address).value = some resolution)
    (found : resolution.symbolAddress = some symbol)
    : ∃ shown : Option String,
        (∀ index demangle,
            (frameLine table index address demangle).value
              = symbolLine index address resolution ((shown.map demangle).getD "<stripped>"))
        ∧ (resolution.symbolName = none → shown = none)
        ∧ ∀ text,
            resolution.symbolName = some text
            → (∃ bytes,
                text.Consists byte? bytes ∧ shown = Utf8.decode? (bytes.take 511))
              ∧ ∀ name,
                  text.Consists byte? (Text.bytes name)
                  → (∀ front, shown = some front ↔ Text.CutTo 511 name front)
                    ∧ ((Text.bytes name).length ≤ 511 → shown = some name)
                    ∧ (shown = none ↔ Text.LiesAcross 511 name) := by
  refine ⟨symbolName? table.memory resolution.symbolName,
    fun index => frameLine_value_of_symbol resolved found index, fun nameless => ?_,
    fun text named => ?_⟩
  · rw [nameless]
    rfl
  · have stands := Image.Table.standsFrom_of_resolve? bytewise.shows resolved named
    have inside := stands.inside unmapped
    rw [named]
    refine ⟨?_, fun name consists => ?_⟩
    · obtain ⟨bytes, consists⟩ := stands.consists inside
      exact ⟨bytes, consists, symbolName?_eq bytewise inside consists⟩
    · have cut (front : String)
          : symbolName? table.memory (some text) = some front ↔ Text.CutTo 511 name front := by
        rw [symbolName?_eq bytewise inside consists]
        exact Utf8.decode?_take_eq_some_iff
      refine ⟨cut, fun fits => (cut name).mpr ((Text.cutTo_iff_of_fits fits).mpr rfl), ?_⟩
      rw [← Text.forall_not_cutTo_iff, Option.eq_none_iff_forall_ne_some]
      exact forall_congr' fun front => not_congr (cut front)

/-- A header, a segment that holds the tables of its image, a command that describes a symbol
table, the one symbol of that table, and the empty text in front of its name.
-/
def namedImage : List UInt8 :=
  ([0xFEEDFACE, 7, 3, 2, 2, 80, 0]
    ++ [1, 56, 0x494C5F5F, 0x44454B4E, 0x5449, 0, 0x1000, 0x1000, 0, 0, 0, 0, 0, 0]
    ++ [2, 24, 108, 1, 120, 514]
    ++ [1, 0x0F, 0x1010]).flatMap Image.Table.wordBytes ++ [0]

/-- A page with that image, and the name of the symbol behind it: the same letter so many times,
and what comes behind.
-/
def namedPages (letters : Nat) (ending : List UInt8) : Memory.Pages where
  readable page := page = 8
  byte position :=
    if position < 0x8079 then namedImage.getD (position - 0x8000) 0
    else if position < 0x8079 + letters then 0x61
    else ending.getD (position - (0x8079 + letters)) 0

/-- That image in the memory of the running process. -/
def named (letters : Nat) (ending : List UInt8) : Image.Table where
  source := .ofList [{ header := some ⟨0x8000⟩, slide := 0x7000 }]
  memory := .live {} (namedPages letters ending)

/-- What the address four bytes above the symbol is resolved to. -/
def nameFound : Image.Resolution where
  imageIndex := 0
  imageName := none
  imageAddress := ⟨0x8000⟩
  symbolAddress := some ⟨0x8010⟩
  symbolName := some ⟨⟨0x8079⟩, 512⟩

/-- The name as a text. -/
def longName (letters : Nat) (ending : List Char) : String :=
  String.ofList (List.replicate letters 'a' ++ ending)

section Named

variable {letters : Nat} {ending : List UInt8}

theorem namedPages_guarded : (namedPages letters ending).Guarded where
  null := rfl
  beyond page far := by
    have behind : 8 < UInt64.size / Memory.pageSize := by decide
    exact decide_eq_false (Nat.ne_of_gt (Nat.lt_of_lt_of_le behind far))

theorem named_bytewise
    : (named letters ending).memory.Bytewise (namedPages letters ending).byte? :=
  Memory.live_bytewise namedPages_guarded ⟨rfl, rfl, nofun⟩

theorem bytes_longName (letters : Nat) (ending : List Char)
    : Text.bytes (longName letters ending)
      = List.replicate letters 0x61 ++ Utf8.encode ending := by
  have same : Utf8.encode (List.replicate letters 'a') = List.replicate letters 0x61 := by
    rw [Utf8.encode, List.flatMap_replicate]
    exact List.flatten_replicate_singleton
  rw [Utf8.bytes_eq_encode, longName, String.toList_ofList, Utf8.encode_append, same]

theorem named_consists (fits : letters + ending.length ≤ 512) (nonzero : 0 ∉ ending)
    : Image.StoredText.Consists (namedPages letters ending).byte?
        ⟨⟨0x8079⟩, letters + ending.length⟩ (List.replicate letters 0x61 ++ ending) := by
  have there {index : Nat} (within : index ≤ 512)
      : (namedPages letters ending).byte? (0x8079 + index)
        = some (if index < letters then 0x61 else ending.getD (index - letters) 0) := by
    have page : (0x8079 + index) / Memory.pageSize = 8 := by
      simp only [Memory.pageSize]
      omega
    rw [Memory.Pages.byte?_eq_some_iff, page]
    refine ⟨rfl, ?_⟩
    simp only [namedPages, if_neg (Nat.not_lt.mpr (Nat.le_add_right 0x8079 index)),
      Nat.add_lt_add_iff_left, Nat.add_sub_add_left]
  constructor
  case length => rw [List.length_append, List.length_replicate]
  case holds =>
    intro index inside
    rw [List.length_append, List.length_replicate] at inside
    refine (there (by omega)).trans ?_
    rcases Nat.lt_or_ge index letters with before | behind
    · rw [if_pos before, List.getElem?_append_left (by simpa using before),
        List.getElem?_replicate_of_lt before]
    · have left : index - letters < ending.length := by omega
      rw [if_neg (Nat.not_lt.mpr behind), List.getElem?_append_right (by simpa using behind),
        List.length_replicate, List.getD_eq_getElem?_getD, List.getElem?_eq_getElem left,
        Option.getD_some]
  case nonzero =>
    intro byte among
    rcases List.mem_append.mp among with letter | last
    · rw [List.eq_of_mem_replicate letter]
      decide
    · exact fun zero => nonzero (zero ▸ last)
  case ended =>
    refine (there fits).trans ?_
    rw [if_neg (Nat.not_lt.mpr (Nat.le_add_right letters _)), Nat.add_sub_cancel_left,
      List.getD_eq_getElem?_getD, List.getElem?_eq_none (Nat.le_refl _), Option.getD_none]

end Named

/-- Of a name of 512 letters all but the last one are shown. -/
theorem frameLine_shows_cut_name_of_letters
    : ((named 510 [0x61, 0x61]).resolve? ⟨0x8014⟩).value = some nameFound
      ∧ ∀ demangle,
          (frameLine (named 510 [0x61, 0x61]) 0 ⟨0x8014⟩ demangle).value
            = symbolLine 0 ⟨0x8014⟩ nameFound (demangle (longName 510 ['a'])) := by
  have resolved : ((named 510 [0x61, 0x61]).resolve? ⟨0x8014⟩).value = some nameFound := by
    decide +kernel
  obtain ⟨shown, line, _, account⟩ :=
    frameLine_shows_cut_name named_bytewise rfl resolved rfl
  have consists
      : Image.StoredText.Consists (namedPages 510 [0x61, 0x61]).byte? ⟨⟨0x8079⟩, 512⟩
          (Text.bytes (longName 510 ['a', 'a'])) := by
    have last : Utf8.encode ['a', 'a'] = [0x61, 0x61] := by decide +kernel
    rw [bytes_longName, last]
    exact named_consists (by decide) (by decide)
  obtain ⟨cut, _, _⟩ := (account _ rfl).2 _ consists
  have front : Text.CutTo 511 (longName 510 ['a', 'a']) (longName 510 ['a']) := by
    refine ⟨⟨String.ofList ['a'], ?_⟩, ?_⟩
    · rw [longName, longName, ← String.ofList_append, List.append_assoc]
      rfl
    · simp only [bytes_longName, List.length_append, List.length_replicate]
      decide +kernel
  refine ⟨resolved, fun demangle => ?_⟩
  rw [line, (cut _).mpr front]
  rfl

/-- The name is valid, and would be cut in the middle of its last letter. None of its fronts is
shown, and the line calls the symbol stripped.
-/
theorem frameLine_calls_named_symbol_stripped
    : ((named 510 [0xC3, 0xA9]).resolve? ⟨0x8014⟩).value = some nameFound
      ∧ (∃ text,
          nameFound.symbolName = some text
          ∧ text.Consists (namedPages 510 [0xC3, 0xA9]).byte?
              (Text.bytes (longName 510 ['é'])))
      ∧ (frameLine (named 510 [0xC3, 0xA9]) 0 ⟨0x8014⟩ id).value
        = "   0 0x0000000000008014 ??? <stripped> + 4"
      ∧ ∀ front rest,
          longName 510 ['é'] = front ++ rest
          → (frameLine (named 510 [0xC3, 0xA9]) 0 ⟨0x8014⟩ id).value
            ≠ symbolLine 0 ⟨0x8014⟩ nameFound front := by
  have resolved : ((named 510 [0xC3, 0xA9]).resolve? ⟨0x8014⟩).value = some nameFound := by
    decide +kernel
  have consists
      : Image.StoredText.Consists (namedPages 510 [0xC3, 0xA9]).byte? ⟨⟨0x8079⟩, 512⟩
          (Text.bytes (longName 510 ['é'])) := by
    have last : Utf8.encode ['é'] = [0xC3, 0xA9] := by decide +kernel
    rw [bytes_longName, last]
    exact named_consists (by decide) (by decide)
  have across : Text.LiesAcross 511 (longName 510 ['é']) := by
    have pushed : (longName 510 []).push 'é' = longName 510 ['é'] := by
      apply String.toList_injective
      simp only [longName, String.toList_push, String.toList_ofList, List.append_nil]
    refine ⟨longName 510 [], 'é', "", ?_, ?_, ?_⟩
    · rw [pushed, String.append_empty]
    · simp only [bytes_longName, List.length_append, List.length_replicate]
      decide +kernel
    · simp only [pushed, bytes_longName, List.length_append, List.length_replicate]
      decide +kernel
  have unread
      : symbolName? (named 510 [0xC3, 0xA9]).memory nameFound.symbolName = none := by
    refine (symbolName?_eq named_bytewise (by decide) consists).trans ?_
    exact Option.eq_none_iff_forall_ne_some.mpr fun _ shown =>
      across.not_cutTo (Utf8.decode?_take_eq_some_iff.mp shown)
  have line
      : (frameLine (named 510 [0xC3, 0xA9]) 0 ⟨0x8014⟩ id).value
        = symbolLine 0 ⟨0x8014⟩ nameFound "<stripped>" := by
    rw [frameLine_value_of_symbol resolved rfl, unread]
    rfl
  refine ⟨resolved, ⟨_, rfl, consists⟩, ?_, ?_⟩
  · rw [line]
    decide +kernel
  · rintro front rest split same
    rw [line, symbolLine_inj] at same
    have first : (longName 510 ['é']).toList.head? = some 'a' := by
      rw [longName, String.toList_ofList]
      rfl
    rw [split, ← same] at first
    simp at first

end Report

end CrashCapture
