import CrashCapture.Proofs.Descriptor.Failing
import CrashCapture.Proofs.Files.Places
import CrashCapture.Proofs.Log.CutLines
import CrashCapture.Report.File
import CrashCapture.Report.Text

/-! A report is announced exactly when it is whole. Its text arrives in pieces of any size, and
the kernel may cut up, interrupt or refuse any request; the line on standard error is written
when the new file holds all of the text, and not when any part of it was refused.
-/

namespace CrashCapture.Report

open Descriptor Files
open Log (Noted Notice)

/-- Writing through a fresh buffer over an open descriptor either goes well, and then the
descriptor has all of the text, or some write fails and is noted.
-/
theorem writePieces_served {writer : Writer} (ready : writer.Ready) (fresh : writer.pending = [])
    (pieces : List String)
    : writer.sink.Served (writePieces writer pieces).value.2 (writePieces writer pieces).value.1
      ∧ ((writePieces writer pieces).notices = []
          ↔ (writePieces writer pieces).value.1 = true)
      ∧ ((writePieces writer pieces).value.1 = true
          → (writePieces writer pieces).value.2.received
            = writer.sink.received ++ Text.bytes (String.join pieces)) := by
  have writing := writer.writeAll_attempt ready (pieces.map Text.bytes)
  obtain ⟨closing, empty⟩ := Writer.flush_attempt (writing.ready ready)
  have both := writing.trans closing
  refine ⟨both.served, ?_, ?_⟩
  · simpa [writePieces, Writer.close] using both.noted
  · intro well
    have all := both.complete well
    rw [empty (Bool.and_eq_true_iff.mp well).2] at all
    simpa [writePieces, Writer.close, fresh, Text.bytes_join] using all

/-- What a report comes to that is written to a new file through `file`. When no write fails,
the file has all of it and a line is written to standard error, which is all that is noted; when
one does, that is noted and standard error is left as it is.
-/
structure Filed (report line : List UInt8) (standardError file : Sink) (delivery : Delivery)
    (notices : List Notice) (after : Sink) (whole : Bool)
    : Prop where
  served : file.Served after whole
  complete : whole = true → after.received = report
  kept : delivery.file = some after
  told
    : delivery.standardError
      = if whole then (standardError.write line).value.2 else standardError
  noted : if whole then notices = (standardError.write line).notices else notices ≠ []

namespace Filed

variable {report line : List UInt8} {standardError file after : Sink} {delivery : Delivery}
  {notices : List Notice} {whole : Bool}

/-- Whatever standard error is told, the file has the whole report. -/
theorem complete_of_told
    (filed : Filed report line standardError file delivery notices after whole)
    (told : delivery.standardError ≠ standardError)
    : after.received = report := by
  cases whole with
  | true => exact filed.complete rfl
  | false => exact absurd filed.told told

/-- On a steady standard error the line stands in full, or nothing does. -/
theorem received_of_steady
    (filed : Filed report line standardError file delivery notices after whole)
    (steady : standardError.Steady)
    : delivery.standardError.received
      = standardError.received ++ if whole then line else [] := by
  rw [filed.told]
  cases whole with
  | true =>
      obtain ⟨_, written, _, _, received⟩ := steady.write line
      rw [if_pos rfl, if_pos rfl, written]
      exact received
  | false => exact (List.append_nil _).symm

end Filed

/-- The line that is written of a path. -/
theorem writeMessage_announcement (standardError : Sink) (path : Path)
    : standardError.writeMessage (announcement path)
      = standardError.write
          ((Text.bytes
              ("crash report written to "
                ++ (Utf8.decode? path).getD "<non-utf8 path>" ++ "\n")).take 1024) := by
  have joint
      : String.join (announcement path)
        = "crash report written to "
            ++ (Utf8.decode? path).getD "<non-utf8 path>" ++ "\n" := by
    simp only [announcement, String.join_cons, String.join_nil, String.append_assoc,
      String.append_empty]
  have some_text : String.join (announcement path) ≠ "" := by
    intro none
    have lengths := congrArg String.length (joint.symm.trans none)
    simp only [String.length_append] at lengths
    exact absurd lengths (by simp)
  rw [Sink.writeMessage_eq, if_neg some_text, joint]

/-- A report that goes to a new file is filed. Witness: the two ends that writing its pieces can
come to.
-/
theorem toFile_filed (path : Path) (standardError file : Sink) (pieces : List String)
    (opened : 0 ≤ file.number) (empty : file.received = [])
    : ∃ after whole,
        Filed (Text.bytes (String.join pieces))
          ((Text.bytes
              ("crash report written to "
                ++ (Utf8.decode? path).getD "<non-utf8 path>" ++ "\n")).take 1024)
          standardError file (toFile path (.ok file) standardError pieces).value
          (toFile path (.ok file) standardError pieces).notices after whole := by
  have ready : ({ capacity := writeCapacity, sink := file, owned := true } : Writer).Ready :=
    ⟨Nat.zero_le _, opened⟩
  obtain ⟨served, noted, complete⟩ := writePieces_served ready rfl pieces
  simp only [toFile, Writer.create, Noted.value_bind, Noted.notices_bind, Noted.value_pure,
    Noted.notices_pure, List.nil_append]
  generalize writePieces { capacity := writeCapacity, sink := file, owned := true } pieces
    = written at *
  obtain ⟨⟨well, after⟩, notices⟩ := written
  cases well with
  | true =>
      obtain rfl : notices = [] := noted.mpr rfl
      have line := writeMessage_announcement standardError path
      exact ⟨after, true, {
        served
        complete := fun _ => by simpa [empty] using complete rfl
        kept := rfl
        told := congrArg (·.value.2) line
        noted := by simp [line] }⟩
  | false =>
      exact ⟨after, false, {
        served
        complete := nofun
        kept := rfl
        told := rfl
        noted := fun none => by simpa using noted.mp (by simpa using none) }⟩

/-- A report that goes to a new file is announced exactly when no write to the file fails, and
then the file holds the whole text of its event: standard error is handed the line that tells
the path, the first 1024 bytes of it, and nothing else. Without a path standard error is handed
the pieces of the report alone, and when the file cannot be created nothing is written anywhere.
-/
theorem deliver_announces_whole_report (table : Image.Table) (event : Event)
    (demangle : String → String) (disk : Disk) (directory : Option Path)
    (standardError file : Sink) (pieces : List String)
    (told : String.join pieces = (text table event demangle).value)
    (opened : 0 ≤ file.number) (empty : file.received = [])
    : let delivered := deliver disk directory event.id standardError file pieces
      let report := Text.bytes (text table event demangle).value
      match directory.bind (path? pathCapacity · event.id.text) with
      | none =>
        delivered.value
          = ({ standardError :=
                (writePieces (.borrow standardError writeCapacity) pieces).value.2 }, disk)
      | some path =>
        let line :=
          (Text.bytes
            ("crash report written to "
              ++ (Utf8.decode? path).getD "<non-utf8 path>" ++ "\n")).take 1024
        match disk.createNew path fileMode with
        | .error _ => delivered.value = ({ standardError := standardError }, disk)
        | .ok (place, _) =>
          ∃ after whole,
            Filed report line standardError file delivered.value.1 delivered.notices after whole
            ∧ delivered.value.2.root.get? place = some (.file fileMode after.received)
            ∧ (delivered.value.1.standardError ≠ standardError → after.received = report)
            ∧ (standardError.Steady
              → delivered.value.1.standardError.received
                = standardError.received ++ if whole then line else []) := by
  intro delivered report
  dsimp only [report]
  rw [← told]
  cases going : directory.bind (path? pathCapacity · event.id.text) with
  | none => simp [delivered, deliver, going, toStandardError]
  | some path =>
      dsimp only
      cases creating : disk.createNew path fileMode with
      | error error =>
          cases error <;> simp [delivered, deliver, going, creating, toFile, Writer.create]
      | ok made =>
          obtain ⟨place, created⟩ := made
          obtain ⟨after, whole, filed⟩ := toFile_filed path standardError file pieces opened empty
          obtain ⟨holder, name, rfl, new⟩ := Disk.createNew_ok creating
          have delivery
              : delivered.value.1 = (toFile path (.ok file) standardError pieces).value := by
            simp [delivered, deliver, going, creating]
          have notices
              : delivered.notices = (toFile path (.ok file) standardError pieces).notices := by
            simp [delivered, deliver, going, creating]
          rw [← delivery, ← notices] at filed
          refine ⟨after, whole, filed, ?_, filed.complete_of_told, filed.received_of_steady⟩
          have stored : (((toFile path (.ok file) standardError pieces).value.file).map
              (·.received)).getD [] = after.received := by
            rw [← delivery, filed.kept]
            rfl
          simpa [delivered, deliver, going, creating, stored]
            using Disk.setData_get? new after.received

/-- A user's report without frames, in a process of which nothing can be seen. -/
def sampleEvent : Event where
  id := .nil
  monitor := "UserReported"
  exception := some { name := "ScriptError" }
  context := {}
  cursor := .ofAddresses [] 1

/-- The name of its file. -/
def sampleName : Name := Text.bytes (sampleEvent.id.text ++ ".txt")

/-- The report can be created in the root directory. -/
theorem createNew_sample
    : (Disk.fresh.createNew (Path.slash :: Path.slash :: sampleName) fileMode).map (·.1)
      = .ok [sampleName] := by
  have entries : Path.entries (Path.slash :: Path.slash :: sampleName) = [sampleName] := by
    decide +kernel
  have whole : ¬ (Path.slash :: Path.slash :: sampleName).contains 0 = true := by
    decide +kernel
  have fits : ¬ longestPath < (Path.slash :: Path.slash :: sampleName).length := by
    decide +kernel
  have name
      : sampleName.length = 40 ∧ sampleName ≠ Path.dot ∧ sampleName ≠ Path.dotDot := by
    decide +kernel
  have holder : Disk.fresh.root.get? [] = some Disk.fresh.root := rfl
  have isDir : Disk.fresh.root.isDir = true := rfl
  have absent : Disk.fresh.root.get? [sampleName] = none := by decide +kernel
  have walked
      : Files.walk Disk.fresh.root false linkLimit [] [sampleName]
        = .ok (.missing [] sampleName) := by
    simp [Files.walk, name, holder, isDir, absent, longestName]
  have located
      : Disk.fresh.locateEntry (Path.slash :: Path.slash :: sampleName)
        = .ok (.missing [] sampleName) := by
    rw [Disk.locateEntry, Disk.locateSteps, entries, if_neg whole,
      if_neg (List.cons_ne_nil _ _), if_neg fits]
    exact congrArg (Except.mapError IoError.os) walked
  have asks : Path.asksDirectory (Path.slash :: Path.slash :: sampleName) = false := by
    decide +kernel
  rw [Disk.createNew, asks, if_neg (by simp), located]
  rfl

/-- It goes to the root directory, through a descriptor that takes a few bytes at a time and is
interrupted, and is all there when standard error is told of it.
-/
theorem deliver_announces_whole_report_of_short_writes
    : let table : Image.Table :=
        { source := .none, memory := { read? := fun _ _ => none, length_read := nofun } }
      let file : Sink :=
        { number := 3, schedule := [.takes 5, .refuses .interrupted, .takes 0] }
      let pieces := (lines table sampleEvent).value.map (· ++ "\n")
      let delivered :=
        deliver .fresh (some [Path.slash]) sampleEvent.id { number := 2 } file pieces
      String.join pieces = (text table sampleEvent).value
      ∧ 0 ≤ file.number
      ∧ file.received = []
      ∧ delivered.value.1.standardError.received
        = Text.bytes
            "crash report written to //00000000-0000-0000-0000-000000000000.txt\n"
      ∧ delivered.value.2.root.get? [sampleName]
        = some (.file fileMode (Text.bytes (text table sampleEvent).value)) := by
  intro table file pieces delivered
  have filed := deliver_announces_whole_report table sampleEvent Image.Mangled.demangle .fresh
    (some [Path.slash]) { number := 2 } file pieces rfl (by decide) rfl
  have going
      : (some [Path.slash]).bind (path? pathCapacity · sampleEvent.id.text)
        = some (Path.slash :: Path.slash :: sampleName) := by
    decide +kernel
  have shown
      : Utf8.decode? (Path.slash :: Path.slash :: sampleName)
        = some "//00000000-0000-0000-0000-000000000000.txt" := by
    decide +kernel
  have creating := createNew_sample
  rw [going] at filed
  dsimp only at filed
  cases making : Disk.fresh.createNew (Path.slash :: Path.slash :: sampleName) fileMode with
  | error error => simp [making, Except.map] at creating
  | ok made =>
      obtain ⟨place, created⟩ := made
      obtain rfl : place = [sampleName] := by simpa [making, Except.map] using creating
      rw [making, shown] at filed
      obtain ⟨after, whole, filed, kept, _, received⟩ := filed
      change _ = some (Node.file fileMode after.received) at kept
      have steady : file.Steady := ⟨by simp [file, WriteAnswer.Steady], rfl⟩
      have listening : ({ number := 2 } : Sink).Steady := ⟨by simp, rfl⟩
      cases whole with
      | false => exact (filed.served.not_steady steady).elim
      | true =>
          refine ⟨rfl, by decide, rfl, (received listening).trans ?_, filed.complete rfl ▸ kept⟩
          rw [Text.bytes_eq, Text.bytes_eq]
          decide +kernel

end CrashCapture.Report
