import CrashCapture.Proofs.Image.Resolution

/-! The identifier of an image, which can be asked for in two ways. The question by name is
answered by the image's first command for an identifier, the description of the image by its
last one; so the answers agree exactly when these two hold the same.
-/

namespace CrashCapture.Image

open Log (Noted)

-----------------------------------------------------------------------------------------
-- Commands for an identifier
-----------------------------------------------------------------------------------------

/-- The commands of an image that hold an identifier, in their order. -/
def Header.uuids (memory : Memory) (header : Header) : List Command :=
  (Commands.ofHeader memory header).list.filter (·.kind = Command.uuid)

/-- What is collected from a segment is no identifier. -/
theorem Survey.addSegment_uuid (memory : Memory) (width : Width) (survey : Survey)
    (segment : Segment)
    : (survey.addSegment memory width segment).uuid = survey.uuid := by
  unfold addSegment
  split
  · rfl
  · split <;> rfl

/-- A command for an identifier replaces what was collected before, even by nothing. -/
theorem Survey.add_uuid (memory : Memory) (width : Width) (survey : Survey)
    (command : Command)
    : (survey.add memory width command).uuid
      = if command.kind = Command.uuid then uuidOf? memory command else survey.uuid := by
  unfold add
  split
  case isTrue segments =>
    have other : command.kind ≠ Command.uuid := by
      rcases segments with narrow | wide
      · exact narrow ▸ by decide
      · exact wide ▸ by decide
    rw [if_neg other]
    split
    · rfl
    · exact survey.addSegment_uuid memory width _
  case isFalse =>
    split
    · rfl
    · split <;> rfl

/-- What every command of one kind replaces is, after a pass over the commands, what the last one
of them says. By induction on the commands left.
-/
theorem Survey.foldl_add_last {α : Type} {memory : Memory} {width : Width} {kind : Nat}
    (kept : Survey → α) (said : Command → α)
    (step
      : ∀ survey command,
          kept (survey.add memory width command)
            = if command.kind = kind then said command else kept survey)
    (commands : List Command) (survey : Survey)
    : kept (commands.foldl (add memory width) survey)
      = match (commands.filter (·.kind = kind)).getLast? with
        | none => kept survey
        | some command => said command := by
  induction commands generalizing survey with
  | nil => rfl
  | cons command rest ih =>
      rw [List.foldl_cons, ih, step]
      by_cases holds : command.kind = kind
      · rw [if_pos holds, List.filter_cons_of_pos (by simpa using holds), List.getLast?_cons]
        cases (rest.filter (·.kind = kind)).getLast? <;> rfl
      · rw [if_neg holds, List.filter_cons_of_neg (by simp [holds])]

/-- One pass over the commands keeps the last identifier. -/
theorem Survey.foldl_add_uuid (memory : Memory) (width : Width) (commands : List Command)
    (survey : Survey)
    : (commands.foldl (add memory width) survey).uuid
      = match (commands.filter (·.kind = Command.uuid)).getLast? with
        | none => survey.uuid
        | some command => uuidOf? memory command :=
  foldl_add_last (·.uuid) _ (add_uuid memory width) commands survey

namespace Table

variable {table : Table} {name : String} {exact : Bool}

/-- The header of the image found by name, if it can be read. -/
def headerNamed? (table : Table) (name : String) (exact : Bool) : Option Header :=
  (table.findByName? name exact).bind fun index =>
    (table.source.image index).header.bind fun start =>
      (Header.read? table.memory start).value

/-- The identifier in the description of the image found by name. -/
def describedUuid? (table : Table) (name : String) (exact : Bool) : Option (List UInt8) :=
  (table.findByName? name exact).bind fun index =>
    (table.imageAt? index).value.bind (·.uuid)

/-- An image is described when its header can be read, with its last identifier. -/
theorem describe?_value_uuid (table : Table) (start : Address) (path : Option (List UInt8))
    : (table.describe? start path).value.bind (·.uuid)
      = (Header.read? table.memory start).value.bind fun header =>
          (header.uuids table.memory).getLast?.bind (Survey.uuidOf? table.memory) := by
  rw [describe?, Noted.value_bind]
  cases (Header.read? table.memory start).value with
  | none => rfl
  | some header =>
      have last
          : ((Commands.ofHeader table.memory header).list.foldl
              (Survey.add table.memory header.width) {}).uuid
            = (header.uuids table.memory).getLast?.bind (Survey.uuidOf? table.memory) := by
        rw [Survey.foldl_add_uuid, Header.uuids]
        cases ((Commands.ofHeader table.memory header).list.filter
          (·.kind = Command.uuid)).getLast? <;> rfl
      simp only [Noted.value_bind, Noted.value_pure, Option.bind_some, Commands.all]
      split <;> exact last

theorem describedUuid?_eq (table : Table) (name : String) (exact : Bool)
    : table.describedUuid? name exact
      = (table.headerNamed? name exact).bind fun header =>
          (header.uuids table.memory).getLast?.bind (Survey.uuidOf? table.memory) := by
  rw [describedUuid?, headerNamed?, Option.bind_assoc]
  congr 1
  funext index
  rw [imageAt?]
  cases (table.source.image index).header with
  | none => rfl
  | some start => exact table.describe?_value_uuid start _

theorem imageUuid?_value (table : Table) (name : String) (exact : Bool)
    : (table.imageUuid? name exact).value
      = (table.headerNamed? name exact).bind fun header =>
          (header.uuids table.memory).head?.bind (Survey.uuidOf? table.memory) := by
  rw [imageUuid?, headerNamed?]
  cases table.findByName? name exact with
  | none => rfl
  | some index =>
      dsimp only [Option.bind_some]
      cases (table.source.image index).header with
      | none => rfl
      | some start =>
          dsimp only [Option.bind_some, Noted.value_bind]
          cases (Header.read? table.memory start).value with
          | none => rfl
          | some header =>
              have first (list : List Command)
                  : (list.findSome? fun command =>
                      (some command).filter (·.kind = Command.uuid))
                    = (list.filter (·.kind = Command.uuid)).head? := by
                rw [List.head?_filter, List.find?_eq_findSome?_guard]
                rfl
              simp only [Noted.value_bind, Noted.value_pure, Commands.findSome?_value,
                Option.bind_some, first, Header.uuids]

/-- By name the first identifier is found and in the description the last one, or neither when
the image is not found or its header cannot be read. So both ways agree exactly when the first
and the last command for an identifier hold the same.
-/
theorem imageUuid?_eq_described_iff (table : Table) (name : String) (exact : Bool)
    : (table.headerNamed? name exact = none
        → (table.imageUuid? name exact).value = none
          ∧ table.describedUuid? name exact = none)
      ∧ (∀ header,
          table.headerNamed? name exact = some header
          → (table.imageUuid? name exact).value
              = (header.uuids table.memory).head?.bind (Survey.uuidOf? table.memory)
            ∧ table.describedUuid? name exact
              = (header.uuids table.memory).getLast?.bind (Survey.uuidOf? table.memory))
      ∧ ((table.imageUuid? name exact).value = table.describedUuid? name exact
        ↔ ∀ header,
            table.headerNamed? name exact = some header
            → (header.uuids table.memory).head?.bind (Survey.uuidOf? table.memory)
              = (header.uuids table.memory).getLast?.bind
                  (Survey.uuidOf? table.memory)) := by
  rw [imageUuid?_value, describedUuid?_eq]
  cases table.headerNamed? name exact with
  | none => simp
  | some header => simp

-----------------------------------------------------------------------------------------
-- An image with two identifiers
-----------------------------------------------------------------------------------------

/-- A header with two commands for an identifier, of ones and of twos. -/
def twoUuidsImage : List UInt8 :=
  [0xFEEDFACE, 7, 3, 2, 2, 48, 0].flatMap wordBytes
    ++ [0x1B, 24].flatMap wordBytes ++ List.replicate 16 1
    ++ [0x1B, 24].flatMap wordBytes ++ List.replicate 16 2

def twoUuids : Table where
  source := .ofList [{ header := some ⟨0x8000⟩, name := some (Text.bytes "a") }]
  memory := .ofRegions [⟨0x8000, twoUuidsImage.toArray⟩]

/-- By its name the image has the identifier of ones, by its description that of twos. -/
theorem imageUuid?_differs_from_description
    : twoUuids.findByName? "a" true = some 0
      ∧ (twoUuids.imageUuid? "a" true).value = some (List.replicate 16 1)
      ∧ ((twoUuids.imageAt? 0).value.map (·.uuid)) = some (some (List.replicate 16 2)) := by
  refine ⟨?_, ?_, ?_⟩
  all_goals decide +kernel

end Table

end CrashCapture.Image
