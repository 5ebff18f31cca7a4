import CrashCapture.Proofs.Monitor.Aside

/-! The account of replaced dispositions. Installing handlers goes from signal to signal, and
at every moment the signals that are taken, the dispositions that were saved and the counter
agree; putting everything back takes the account down again, after the last signal as well as
after one that was refused.
-/

namespace CrashCapture

/-- The slot in which the disposition is saved that a signal had. -/
def FatalSignal.slot (signal : FatalSignal) : Fin savedCapacity :=
  ⟨all.idxOf signal, by cases signal <;> decide⟩

/-- Each signal has a slot of its own. -/
theorem FatalSignal.slot_inj {a b : FatalSignal} (same : a.slot = b.slot) : a = b := by
  cases a <;> cases b <;> first | rfl | exact absurd same (by decide)

namespace Handlers

-----------------------------------------------------------------------------------------
-- What is installed while some signals are taken
-----------------------------------------------------------------------------------------

section Account

variable (originals : FatalSignal → Disposition)

/-- The dispositions while the handler is installed for some signals. -/
def taken (held : List FatalSignal) (signal : FatalSignal) : Disposition :=
  if signal ∈ held then .capture else originals signal

/-- The slots while the dispositions of some signals are saved. -/
def saved (held : List FatalSignal)
    : Vector (Option (FatalSignal × Disposition)) savedCapacity :=
  .ofFn fun index =>
    (held.find? fun signal => signal.slot = index).map fun signal =>
      (signal, originals signal)

/-- When all signals are taken, every disposition is to capture. -/
theorem taken_all : taken originals FatalSignal.all = fun _ => .capture := by
  funext signal
  exact if_pos signal.mem_all

/-- A disposition that is not the handler's own is an original one. -/
theorem original_of_taken {held : List FatalSignal} {signal : FatalSignal}
    {found : Disposition} (other : found ≠ .capture)
    (here : taken originals held signal = found)
    : originals signal = found := by
  unfold taken at here
  split at here
  · exact absurd here.symm other
  · exact here

/-- Without signals taken all slots are empty. -/
theorem saved_nil : saved originals [] = Vector.replicate savedCapacity none := by
  ext index bound : 1
  simp [saved]

/-- A signal that is taken in addition. -/
theorem taken_concat (held : List FatalSignal) (signal : FatalSignal)
    : taken originals (held ++ [signal])
      = fun s => if s = signal then .capture else taken originals held s := by
  funext s
  by_cases same : s = signal <;> simp [taken, same]

/-- A signal that is given back. -/
theorem taken_tail {held : List FatalSignal} {signal : FatalSignal} (fresh : signal ∉ held)
    : taken originals held
      = fun s =>
          if s = signal then originals signal else taken originals (signal :: held) s := by
  funext s
  by_cases same : s = signal <;> simp [taken, same, fresh]

/-- A signal that is not taken finds no other one in its slot. -/
theorem find?_slot_eq_none {held : List FatalSignal} {signal : FatalSignal}
    (fresh : signal ∉ held)
    : (held.find? fun other => other.slot = signal.slot) = none := by
  rw [List.find?_eq_none]
  intro other member same
  exact fresh (FatalSignal.slot_inj (of_decide_eq_true same) ▸ member)

/-- Saving the disposition of a signal fills its slot and no other. -/
theorem saved_concat {held : List FatalSignal} {signal : FatalSignal}
    (fresh : signal ∉ held)
    : (saved originals held).set signal.slot (some (signal, originals signal))
      = saved originals (held ++ [signal]) := by
  ext index bound : 1
  by_cases same : signal.slot.val = index
  · have here : (⟨index, bound⟩ : Fin savedCapacity) = signal.slot := Fin.ext same.symm
    simp [saved, same, here, List.find?_append, find?_slot_eq_none fresh]
  · have elsewhere : signal.slot ≠ (⟨index, bound⟩ : Fin savedCapacity) := fun h =>
      same (congrArg Fin.val h)
    simp [saved, same, elsewhere, List.find?_append]

/-- The slot of a signal just taken holds the signal and its original disposition. -/
theorem saved_cons_slot (held : List FatalSignal) (signal : FatalSignal)
    : (saved originals (signal :: held))[signal.slot]
      = some (signal, originals signal) := by
  simp [saved]

/-- Emptying the slot of a signal leaves those of the others. -/
theorem saved_tail {held : List FatalSignal} {signal : FatalSignal} (fresh : signal ∉ held)
    : (saved originals (signal :: held)).set signal.slot none = saved originals held := by
  ext index bound : 1
  by_cases same : signal.slot.val = index
  · have here : (⟨index, bound⟩ : Fin savedCapacity) = signal.slot := Fin.ext same.symm
    simp [saved, same, here, find?_slot_eq_none fresh]
  · have elsewhere : signal.slot ≠ (⟨index, bound⟩ : Fin savedCapacity) := fun h =>
      same (congrArg Fin.val h)
    simp [saved, same, elsewhere]

/-- Between two steps: the handler is installed for some signals, the dispositions of some are
saved, and the counter is anywhere.
-/
structure Midway (caught kept : List FatalSignal) (count : Nat) (process : Process)
    : Prop where
  dispositions : process.dispositions = taken originals caught
  slots : process.table.slots = saved originals kept
  counted : process.table.installed = count

/-- The account of some signals is settled: the handler is installed for exactly them, and
what they did before is saved and counted.
-/
abbrev Holding (held : List FatalSignal) (process : Process) : Prop :=
  Midway originals held held held.length process

/-- Nothing but original dispositions is saved, and only signals within the bound were given
another one.
-/
structure Within (bound : List FatalSignal) (process : Process) : Prop where
  saved
    : ∀ (index : Fin savedCapacity) (signal : FatalSignal) (previous : Disposition),
        process.table.slots.get index = some (signal, previous) → previous = originals signal
  beyond : ∀ signal ∉ bound, process.dispositions signal = originals signal

end Account

variable {host : Host} {originals : FatalSignal → Disposition} {process : Process}
  {caught kept held bound : List FatalSignal} {count : Nat}

/-- The account is seen from what decides alone. -/
theorem Midway.of_core {after : Process} (same : after.core = process.core)
    (here : Midway originals caught kept count process)
    : Midway originals caught kept count after := by
  have installed : after.installed = process.installed := congrArg Prod.snd same
  have dispositions : after.dispositions = process.dispositions :=
    congrArg Installed.dispositions installed
  have table : after.table = process.table := congrArg Installed.table installed
  exact ⟨dispositions.trans here.dispositions, table ▸ here.slots, table ▸ here.counted⟩

/-- While only some signals are captured, no other one has changed. -/
theorem Midway.within (here : Midway originals caught kept count process)
    (inside : caught ⊆ bound)
    : Within originals bound process := by
  refine ⟨?_, ?_⟩
  · intro index signal previous found
    have held
        : (Handlers.saved originals kept).get index
          = (kept.find? fun signal => signal.slot = index).map fun signal =>
              (signal, originals signal) := Vector.getElem_ofFn index.isLt
    rw [here.slots, held, Option.map_eq_some_iff] at found
    obtain ⟨other, _, same⟩ := found
    obtain ⟨rfl, rfl⟩ := Prod.mk.inj same
    rfl
  · intro signal outside
    rw [here.dispositions]
    exact if_neg fun member => outside (inside member)

/-- The table that holds nothing is the empty one. -/
theorem Holding.table_eq (here : Holding originals [] process) : process.table = {} := by
  show HandlerTable.mk process.table.slots process.table.installed = {}
  rw [here.slots, here.counted, saved_nil]
  rfl

-----------------------------------------------------------------------------------------
-- Putting dispositions back
-----------------------------------------------------------------------------------------

/-- The slot of a signal is emptied before its disposition is put back. -/
theorem Midway.emptied {signal : FatalSignal} (fresh : signal ∉ kept)
    (here : Midway originals caught (signal :: kept) count process)
    : Midway originals caught kept count { process with
        table.slots := process.table.slots.set signal.slot none } where
  dispositions := here.dispositions
  slots := by
    rw [here.slots]
    exact saved_tail originals fresh
  counted := here.counted

/-- A signal put back is captured no more, and the slots are left as they are. -/
theorem Midway.putBack {signal : FatalSignal} (fresh : signal ∉ caught)
    (here : Midway originals (signal :: caught) kept count process)
    : Midway originals caught kept count
        (process.setDisposition signal (originals signal)) where
  dispositions := by
    rw [taken_tail originals fresh, ← here.dispositions]
    rfl
  slots := here.slots
  counted := here.counted

/-- Where nothing refuses, slots are emptied and their dispositions are back one by one, by
induction on the signals still held.
-/
theorem restoreSlots_ensures (restores : ∀ signal ∈ held, host.kernel.restore signal = none)
    (distinct : held.Nodup) (inside : held ⊆ bound)
    (here : Midway originals held held count process)
    : (restoreSlots host (held.map FatalSignal.slot)).Ensures (Within originals bound)
        (fun _ after => Midway originals [] [] count after) process := by
  induction held generalizing process with
  | nil => exact here
  | cons signal rest ih =>
      obtain ⟨fresh, distinctRest⟩ := List.nodup_cons.mp distinct
      have insideRest : rest ⊆ bound := fun _ member => inside (List.mem_cons_of_mem _ member)
      have found : process.table.slots[signal.slot] = some (signal, originals signal) := by
        rw [here.slots, saved_cons_slot]
      have emptied := here.emptied fresh
      have back := emptied.putBack fresh
      rw [List.map_cons, restoreSlots, Steps.ensures_bind, takeSlot, Steps.ensures_exchange,
        found]
      refine ⟨emptied.within inside, ?_⟩
      have accepted := restores signal List.mem_cons_self
      simp only [setDisposition, accepted, Steps.ensures_bind, Steps.ensures_exchange]
      exact ⟨back.within insideRest,
        ih (fun other later => restores other (.tail _ later)) distinctRest insideRest back⟩

/-- The slots in use are those of the signals in front. -/
theorem take_finRange_eq {rest : List FatalSignal} (split : held ++ rest = FatalSignal.all)
    : (List.finRange savedCapacity).take held.length = held.map FatalSignal.slot := by
  have few : held.length ≤ FatalSignal.all.length := by
    rw [← split, List.length_append]
    omega
  have front : held = FatalSignal.all.take held.length := by
    rw [← split, List.take_left]
  have places
      : ∀ number ≤ FatalSignal.all.length,
          (List.finRange savedCapacity).take number
            = (FatalSignal.all.take number).map FatalSignal.slot := by
    decide
  rw [places _ few, ← front]

/-- Settled accounts of the signals in front are taken down altogether. -/
theorem restore_ensures (restores : ∀ signal ∈ held, host.kernel.restore signal = none)
    {rest : List FatalSignal} (split : held ++ rest = FatalSignal.all) (inside : held ⊆ bound)
    (here : Holding originals held process)
    : (restore host).Ensures (Within originals bound)
        (fun _ after => Holding originals [] after) process := by
  have distinct : held.Nodup := by
    have all : FatalSignal.all.Nodup := by decide
    rw [← split] at all
    exact (List.nodup_append.mp all).1
  have uncounted
      : Midway originals held held 0 { process with table.installed := 0 } :=
    ⟨here.dispositions, here.slots, rfl⟩
  rw [restore, Steps.ensures_bind, takeCount, Steps.ensures_exchange, here.counted,
    take_finRange_eq split]
  exact ⟨uncounted.within inside, restoreSlots_ensures restores distinct inside uncounted⟩

-----------------------------------------------------------------------------------------
-- Installing handlers
-----------------------------------------------------------------------------------------

/-- Whether the kernel lets the handler be installed for a signal. -/
def accepts (host : Host) (signal : FatalSignal) : Bool :=
  (host.kernel.install signal).isNone

/-- Installing goes over all signals with their slots, in order. -/
theorem install_eq (host : Host)
    : install host
      = installEach host (FatalSignal.all.map fun signal => (signal, signal.slot)) := rfl

/-- In the order of signals, the slot of one is the number of those in front. -/
theorem slot_of_split {rest : List FatalSignal} {signal : FatalSignal}
    (split : held ++ signal :: rest = FatalSignal.all)
    : signal ∉ held ∧ signal.slot.val = held.length := by
  have all : FatalSignal.all.Nodup := by decide
  rw [← split] at all
  have fresh : signal ∉ held := fun member =>
    (List.nodup_append.mp all).2.2 signal member signal List.mem_cons_self rfl
  refine ⟨fresh, ?_⟩
  show FatalSignal.all.idxOf signal = held.length
  rw [← split, List.idxOf_append, if_neg fresh, List.idxOf_cons_self, Nat.zero_add]

/-- One more signal is captured before it is stored. -/
theorem Midway.captured (here : Midway originals caught kept count process)
    (signal : FatalSignal)
    : Midway originals (caught ++ [signal]) kept count
        (process.setDisposition signal .capture) where
  dispositions := by
    rw [taken_concat, ← here.dispositions]
    rfl
  slots := here.slots
  counted := here.counted

/-- What a captured signal was before is stored in its slot. -/
theorem Midway.stored {signal : FatalSignal} (fresh : signal ∉ kept)
    (here : Midway originals caught kept count process)
    : Midway originals caught (kept ++ [signal]) count { process with
        table.slots :=
          process.table.slots.set signal.slot (some (signal, originals signal)) } where
  dispositions := here.dispositions
  slots := by
    rw [here.slots]
    exact saved_concat originals fresh
  counted := here.counted

/-- A signal that is not captured still has its original disposition. -/
theorem Midway.previous {signal : FatalSignal} (fresh : signal ∉ caught)
    (here : Midway originals caught kept count process)
    : process.dispositions signal = originals signal := by
  rw [here.dispositions]
  exact if_neg fresh

/-- A process once the handler of a signal is installed and what was there before is saved and
counted.
-/
def takeOver (process : Process) (signal : FatalSignal) : Process :=
  { process.setDisposition signal .capture with
    table := {
      slots := process.table.slots.set signal.slot (some (signal, process.dispositions signal))
      installed := signal.slot.val + 1 } }

/-- Captured, stored and counted, a signal is held with those before. -/
theorem Midway.takenOver {signal : FatalSignal} (fresh : signal ∉ held)
    (place : signal.slot.val = held.length) (here : Holding originals held process)
    : Holding originals (held ++ [signal]) (takeOver process signal) where
  dispositions := (here.captured signal).dispositions
  slots := by
    rw [takeOver, here.previous fresh]
    exact (here.stored fresh).slots
  counted := by
    rw [List.length_append, List.length_singleton, ← place]
    rfl

/-- How installing ends: all signals are taken, or the first refusal is the answer and none is.
-/
def Settled (host : Host) (originals : FatalSignal → Disposition) (rest : List FatalSignal)
    (result : Except Failure Unit) (after : Process)
    : Prop :=
  match rest.find? fun signal => !accepts host signal with
  | none => result = .ok () ∧ Holding originals FatalSignal.all after
  | some refused =>
    ∃ errno,
      host.kernel.install refused = some errno
      ∧ result = .error (.hookInstall refused.name errno.named)
      ∧ Holding originals [] after

/-- Handlers are installed up to the first refusal, which takes all of them down again; no
signal from there on is touched. Witness: induction on the signals left, with those already
taken in front.
-/
theorem installEach_ensures {rest : List FatalSignal}
    (restores
      : ∀ signal ∈ held ++ rest.takeWhile (accepts host), host.kernel.restore signal = none)
    (split : held ++ rest = FatalSignal.all)
    (here : Holding originals held process)
    : (installEach host (rest.map fun signal => (signal, signal.slot))).Ensures
        (Within originals (held ++ rest.takeWhile (accepts host)))
        (Settled host originals rest) process := by
  induction rest generalizing held process with
  | nil =>
      rw [List.append_nil] at split
      exact ⟨rfl, split ▸ here⟩
  | cons signal rest ih =>
      obtain ⟨fresh, place⟩ := slot_of_split split
      rw [List.map_cons, installEach, Steps.ensures_bind]
      cases answer : host.kernel.install signal with
      | some errno =>
          have untouched : (signal :: rest).takeWhile (accepts host) = [] := by
            simp [accepts, answer]
          have settled {after : Process} (empty : Holding originals [] after)
              : Settled host originals (signal :: rest)
                  (.error (.hookInstall signal.name errno.named)) after := by
            simpa [Settled, accepts, answer] using empty
          rw [untouched, List.append_nil] at restores
          simp only [setDisposition, answer, Steps.ensures_pure, Steps.ensures_bind, untouched,
            List.append_nil]
          refine ((Action.hidden_core.log _ _ _).leaves process).mono ?_ ?_
          · intro after same
            exact (here.of_core same).within (List.Subset.refl _)
          · intro _ after same
            exact (restore_ensures restores split (List.Subset.refl _) (here.of_core same)).mono
              (fun _ within => within) fun _ _ => settled
      | none =>
          have reached
              : held ++ (signal :: rest).takeWhile (accepts host)
                = (held ++ [signal]) ++ rest.takeWhile (accepts host) := by
            simp [accepts, answer]
          have settled
              : Settled host originals (signal :: rest) = Settled host originals rest := by
            funext result after
            simp [Settled, accepts, answer]
          have previous := here.previous fresh
          have captured := here.captured signal
          have stored := captured.stored fresh
          have counted := here.takenOver fresh place
          have inside
              : held ++ [signal] ⊆ (held ++ [signal]) ++ rest.takeWhile (accepts host) :=
            List.subset_append_left ..
          have onward : (held ++ [signal]) ++ rest = FatalSignal.all := by
            rw [List.append_assoc]
            exact split
          rw [← previous] at stored
          rw [reached] at restores
          simp only [setDisposition, answer, Steps.ensures_exchange, Steps.ensures_bind, save,
            count, Steps.ensures_modify, reached, settled]
          exact ⟨captured.within inside, stored.within inside, counted.within inside,
            ih restores onward counted⟩

end Handlers

end CrashCapture
