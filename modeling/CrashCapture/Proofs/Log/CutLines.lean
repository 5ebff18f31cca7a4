import CrashCapture.Log.Line
import CrashCapture.Proofs.Descriptor.Failing
import CrashCapture.Proofs.Text.Bytes

/-! Texts of bounded length. What does not fit is dropped fragment by fragment, and still what is
left depends on the joint text alone: it is the first bytes of it, as many as there is room for.
-/

namespace CrashCapture

-----------------------------------------------------------------------------------------
-- Buffers that never grow
-----------------------------------------------------------------------------------------

namespace Log

theorem Bounded.capacity_appendAll (line : Bounded) (fragments : List (List UInt8))
    : (line.appendAll fragments).capacity = line.capacity := by
  induction fragments generalizing line with
  | nil => rfl
  | cons fragment rest ih => exact ih (line.append fragment)

theorem Bounded.bytes_append (line : Bounded) (fragment : List UInt8)
    : (line.append fragment).bytes = (line.bytes ++ fragment).take line.capacity := by
  rw [List.take_append, List.take_of_length_le line.fits]
  rfl

/-- The buffer holds as much of all that was added as there is room for, by induction on the
fragments: what was dropped of one of them leaves no room for the next.
-/
theorem Bounded.bytes_appendAll (line : Bounded) (fragments : List (List UInt8))
    : (line.appendAll fragments).bytes
      = (line.bytes ++ fragments.flatten).take line.capacity := by
  induction fragments generalizing line with
  | nil =>
      rw [List.flatten_nil, List.append_nil, List.take_of_length_le line.fits]
      rfl
  | cons fragment rest ih =>
      have noRoom : line.capacity - min line.capacity (line.bytes ++ fragment).length
          = line.capacity - (line.bytes ++ fragment).length := by omega
      calc
        (line.appendAll (fragment :: rest)).bytes
          = ((line.bytes ++ fragment).take line.capacity ++ rest.flatten).take line.capacity := by
            rw [← bytes_append]
            exact ih (line.append fragment)
        _ = (line.bytes ++ fragment ++ rest.flatten).take line.capacity := by
            rw [List.take_append, List.take_take, Nat.min_self, List.length_take, noRoom,
              ← List.take_append]
        _ = (line.bytes ++ (fragment :: rest).flatten).take line.capacity := by
            rw [List.flatten_cons, List.append_assoc]

/-- An empty buffer takes the front of the joint text of some fragments. -/
theorem Bounded.bytes_ofTexts (capacity : Nat) (fragments : List String)
    : ((empty capacity).appendAll (fragments.map Text.bytes)).bytes
      = (Text.bytes (String.join fragments)).take capacity := by
  rw [bytes_appendAll, Text.bytes_join]
  rfl

/-- In a buffer that has room for any byte the last one is the terminator. -/
theorem Bounded.bytes_terminate (line : Bounded) (byte : UInt8) (some_room : line.capacity ≠ 0)
    : (line.terminate byte).bytes = line.bytes.take (line.capacity - 1) ++ [byte] :=
  if_neg some_room

/-- A line is the front of its text, with a newline behind it. -/
theorem line_eq (level : Level) (origin : String) (message : List String)
    : line level origin message
      = (Text.bytes (level.label ++ " " ++ origin ++ ": " ++ String.join message)).take 511
        ++ [0x0A] := by
  have joint : String.join (lineFragments level origin message)
      = level.label ++ " " ++ origin ++ ": " ++ String.join message := by
    simp only [lineFragments, List.cons_append, List.nil_append, String.join_cons,
      String.append_assoc]
  have room := Bounded.capacity_appendAll (.empty lineCapacity)
    ((lineFragments level origin message).map Text.bytes)
  have capacity : (Bounded.empty lineCapacity).capacity = 512 := rfl
  rw [line, Bounded.bytes_terminate _ _ (by rw [room, capacity]; decide),
    Bounded.bytes_ofTexts, joint, room, List.take_take]
  rfl

end Log

-----------------------------------------------------------------------------------------
-- Messages to a descriptor
-----------------------------------------------------------------------------------------

namespace Descriptor

/-- A message is written as its front, unless there is nothing in it. -/
theorem Sink.writeMessage_eq (sink : Sink) (fragments : List String)
    : sink.writeMessage fragments
      = if String.join fragments = "" then pure (.error (.kind .invalidInput), sink)
        else sink.write ((Text.bytes (String.join fragments)).take 1024) := by
  have empty : ((Text.bytes (String.join fragments)).take messageCapacity).isEmpty = true
      ↔ String.join fragments = "" := by
    have some_room : messageCapacity ≠ 0 := by decide
    rw [List.isEmpty_iff, List.take_eq_nil_iff, or_iff_right some_room]
    exact ⟨fun none => Text.bytes_inj (none.trans (Text.bytes_eq "").symm),
      fun none => none ▸ Text.bytes_eq ""⟩
  rw [writeMessage, Log.Bounded.bytes_ofTexts]
  by_cases nothing : String.join fragments = ""
  · rw [if_pos nothing, if_pos (empty.mpr nothing)]
  · rw [if_neg nothing, if_neg (mt empty.mp nothing)]
    rfl

end Descriptor

/-- An enabled line of the log is handed over as the first 511 bytes of its text and a newline,
in whatever fragments the message comes, and one that is not enabled not at all. Of a message
to a descriptor the first 1024 bytes are handed over. It fails as invalid input exactly when it
is empty, and then nothing is asked of the kernel and there is no error number, or when a
request for part of it is refused with the number that the kernel has for that.
-/
theorem output_is_front_of_text
    : (∀ (logger : Log.Logger) level origin message,
        logger.write level origin message
          = if level.verbosity ≤ logger.level.verbosity ∧ 0 ≤ logger.descriptor then
              (Text.bytes
                  (level.label ++ " " ++ origin ++ ": " ++ String.join message)).take 511
                ++ [0x0A]
            else [])
      ∧ ∀ (sink : Descriptor.Sink) (fragments : List String),
          let message := String.join fragments
          let front := (Text.bytes message).take 1024
          let attempt := (sink.writeMessage fragments).value
          attempt
              = (if message = "" then (.error (.kind .invalidInput), sink)
                else (sink.write front).value)
            ∧ (sink.FailsByAnswer
              → (attempt.1 = .error (.kind .invalidInput) ↔ message = "")
                ∧ ((∃ error, attempt.1 = .error error ∧ error.toKind = .invalidInput)
                  ↔ message = "" ∨ sink.Refuses front (.os .invalid)))
            ∧ (sink.Steady → attempt.2.received = sink.received ++ front) := by
  constructor
  · intro logger level origin message
    rw [Log.Logger.write, Log.line_eq]
    simp only [Log.Logger.isEnabled, Log.Level.admits, Bool.and_eq_true, decide_eq_true_eq]
  · intro sink fragments message front attempt
    have value
        : attempt
          = if message = "" then (.error (.kind .invalidInput), sink)
            else (sink.write front).value :=
      (congrArg Log.Noted.value (sink.writeMessage_eq fragments)).trans (apply_ite _ _ _ _)
    refine ⟨value, fun answers => ?_, fun steady => ?_⟩
    · rw [value]
      by_cases nothing : message = ""
      · rw [if_pos nothing]
        exact ⟨iff_of_true rfl nothing,
          iff_of_true ⟨.kind .invalidInput, rfl, rfl⟩ (.inl nothing)⟩
      · rw [if_neg nothing, or_iff_right nothing]
        refine ⟨iff_of_false (fun failed => ?_) nothing, answers.write_invalid_iff⟩
        -- The kernel answers with numbers, and the bare class is none.
        cases answers.eq_invalid (Descriptor.Sink.write_eq_error_iff.mp failed) rfl
    · rw [value]
      by_cases nothing : message = ""
      · have none : front = [] := by
          rw [show front = (Text.bytes message).take 1024 from rfl, nothing, Text.bytes_eq ""]
          rfl
        rw [if_pos nothing, none, List.append_nil]
      · rw [if_neg nothing]
        obtain ⟨after, written, _, _, received⟩ := steady.write front
        rw [written]
        exact received

/-- A descriptor that takes aligned blocks only, and so no message. -/
def alignedOnly : Descriptor.Sink := { number := 3, failing := some (.os .invalid) }

/-- It calls any request invalid. -/
theorem alignedOnly_refuses {data : List UInt8} (some_data : data ≠ [])
    : alignedOnly.Refuses data (.os .invalid) :=
  ⟨[], nofun, List.length_pos_iff.mpr some_data, .inr ⟨rfl, rfl⟩⟩

/-- A message that is cut in the middle of its last letter, by a descriptor that takes one byte
first and is interrupted then; and one that the kernel refuses as invalid.
-/
theorem output_is_front_of_text_of_cut_letter
    : let sink : Descriptor.Sink :=
        { number := 3, schedule := [.takes 0, .refuses .interrupted] }
      let message := [String.ofList (List.replicate 1023 'a'), "é"]
      (sink.Steady ∧ sink.FailsByAnswer ∧ alignedOnly.FailsByAnswer)
      ∧ (sink.writeMessage message).value.2.received = List.replicate 1023 0x61 ++ [0xC3]
      ∧ (sink.writeMessage message).value.1 ≠ .error (.kind .invalidInput)
      ∧ ∃ error,
          (alignedOnly.writeMessage message).value.1 = .error error
          ∧ error.toKind = .invalidInput := by
  intro sink message
  have steady : sink.Steady := ⟨by simp [sink, Descriptor.WriteAnswer.Steady], rfl⟩
  have genuine : sink.FailsByAnswer := by
    intro error lasting
    cases lasting
  have aligned_genuine : alignedOnly.FailsByAnswer := by
    rintro error lasting
    cases lasting
    exact ⟨.refuses .invalid, rfl⟩
  have bytes : Text.bytes (String.join message)
      = List.replicate 1023 0x61 ++ [0xC3, 0xA9] := by
    have letters
        : Text.bytes (String.ofList (List.replicate 1023 'a'))
          = (List.replicate 1023 'a').map fun c => UInt8.ofNat c.toNat :=
      Text.bytes_ofList fun c among => List.eq_of_mem_replicate among ▸ by decide
    have last : Text.bytes "é" = [0xC3, 0xA9] := Text.bytes_eq "é"
    simp only [message, Text.bytes_join, List.map_cons, List.map_nil, List.flatten_cons,
      List.flatten_nil, List.append_nil, letters, last, List.map_replicate]
    rfl
  have front
      : (Text.bytes (String.join message)).take 1024 = List.replicate 1023 0x61 ++ [0xC3] := by
    rw [bytes, List.take_append, List.take_replicate, List.length_replicate]
    rfl
  obtain ⟨_, failing, handed⟩ := output_is_front_of_text.2 sink message
  obtain ⟨_, fails, _⟩ := output_is_front_of_text.2 alignedOnly message
  refine ⟨⟨steady, genuine, aligned_genuine⟩, ?_, ?_, ?_⟩
  · rw [handed steady, front]
    rfl
  · rw [Ne, (failing genuine).1]
    intro nothing
    rw [nothing, Text.bytes_eq ""] at bytes
    exact List.append_ne_nil_of_right_ne_nil _ (List.cons_ne_nil _ _) bytes.symm
  · refine (fails aligned_genuine).2.mpr (.inr (alignedOnly_refuses ?_))
    rw [front]
    exact List.append_ne_nil_of_right_ne_nil _ (List.cons_ne_nil _ _)

/-- A message that is not empty can fail as invalid input. -/
theorem refused_message_is_invalidInput
    : ¬ ((∃ error,
            (alignedOnly.writeMessage ["x"]).value.1 = .error error
            ∧ error.toKind = .invalidInput)
          ↔ String.join ["x"] = "") := by
  have some_text : String.join ["x"] ≠ "" := by decide
  have some_data : (Text.bytes (String.join ["x"])).take 1024 ≠ [] := by
    rw [Text.bytes_eq]
    exact List.cons_ne_nil _ _
  refine fun same => some_text (same.mp ⟨.os .invalid, ?_, by decide⟩)
  rw [Descriptor.Sink.writeMessage_eq, if_neg some_text]
  exact Descriptor.Sink.write_eq_error_iff.mpr (alignedOnly_refuses some_data)

end CrashCapture
