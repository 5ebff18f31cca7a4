import CrashCapture.Proofs.Monitor.StackOwner
import Mathlib.Data.List.TakeWhile

/-! Turning the signal monitor on takes several calls of the kernel, any of which may be
refused. What was done before the refusal is undone then, with one exception: a stack that
cannot be registered stays mapped.
-/

namespace CrashCapture

open Steps

variable {host : Host} {process : Process} {stack : Address}

-----------------------------------------------------------------------------------------
-- The kernel's calls
-----------------------------------------------------------------------------------------

/-- What the kernel is asked for when the signal monitor is turned on. -/
inductive Stage where
  | mapping
  | guarding
  | registering
  | handling (signal : FatalSignal)
deriving DecidableEq

namespace Stage

/-- The order of the calls. -/
def all : List Stage := [mapping, guarding, registering] ++ FatalSignal.all.map handling

def refusal? (kernel : Kernel) : Stage → Option Errno
  | mapping => kernel.mapStack
  | guarding => kernel.guardStack
  | registering => kernel.registerStack
  | handling signal => kernel.install signal

/-- Whether the monitor's stack is registered already when the call is made. -/
def hasStack : Stage → Bool
  | handling _ => true
  | _ => false

/-- What a refusal is reported as. -/
def failure (errno : Errno) : Stage → Failure
  | mapping => AltStack.fault "mmap" errno
  | guarding => AltStack.fault "guard page" errno
  | registering => AltStack.fault "sigaltstack" errno
  | handling signal => .hookInstall signal.name errno.named

/-- The first call of some that is refused. -/
def firstRefusal? (kernel : Kernel) (stages : List Stage) : Option (Stage × Errno) :=
  stages.findSome? fun stage => (stage.refusal? kernel).map fun errno => (stage, errno)

/-- The first refusal is one in front, or else the first one behind. -/
theorem firstRefusal?_append (kernel : Kernel) (front rest : List Stage)
    : firstRefusal? kernel (front ++ rest)
      = (firstRefusal? kernel front).or (firstRefusal? kernel rest) := List.findSome?_append

/-- A stage that is refused is the first one refused. -/
theorem firstRefusal?_cons (kernel : Kernel) (stage : Stage) (rest : List Stage)
    : firstRefusal? kernel (stage :: rest)
      = match stage.refusal? kernel with
        | some errno => some (stage, errno)
        | none => firstRefusal? kernel rest := by
  rw [firstRefusal?, List.findSome?_cons]
  cases stage.refusal? kernel <;> rfl

/-- The handlers are refused at the first signal that the kernel does not accept, by induction
on the signals.
-/
theorem firstRefusal?_handling (signals : List FatalSignal)
    : firstRefusal? host.kernel (signals.map handling)
      = (signals.find? fun signal => !Handlers.accepts host signal).bind fun signal =>
          (host.kernel.install signal).map fun errno => (handling signal, errno) := by
  induction signals with
  | nil => rfl
  | cons signal rest ih =>
      rw [List.map_cons, firstRefusal?_cons, List.find?_cons, Handlers.accepts, refusal?, ih]
      cases answer : host.kernel.install signal with
      | none => rfl
      | some errno => simp [answer]

end Stage

-----------------------------------------------------------------------------------------
-- The stack
-----------------------------------------------------------------------------------------

/-- The states of threads once one of them has another stack registered. -/
def relet (threads : ThreadId → ThreadState) (thread : ThreadId) (stack : Option Address)
    : ThreadId → ThreadState := fun other =>
  if other = thread then { threads thread with altStack := stack } else threads other

/-- Only the last registration on a thread counts. -/
theorem relet_relet (threads : ThreadId → ThreadState) (thread : ThreadId)
    (first second : Option Address)
    : relet (relet threads thread first) thread second = relet threads thread second := by
  funext other
  by_cases same : other = thread <;> simp [relet, same]

/-- Registering on one thread leaves the others as they are. -/
theorem altStack_relet (threads : ThreadId → ThreadState) (thread other : ThreadId)
    (stack : Option Address)
    : (relet threads thread stack other).altStack
      = if other = thread then stack else (threads other).altStack := by
  unfold relet
  split <;> rfl

/-- What a thread is given back that had a stack when another one was registered for it. -/
def givenBack (own : Option Address) (stack : Address) : Option Address :=
  if own = some stack then none else own

section GivenBack

variable {own : Option Address}

/-- A thread keeps a stack of its own. -/
theorem givenBack_of_foreign (foreign : own ≠ none ∧ own ≠ some stack)
    : givenBack own stack = own := if_neg foreign.2

/-- A thread without a stack of its own has none afterwards. -/
theorem givenBack_of_not_foreign (known : ¬ (own ≠ none ∧ own ≠ some stack))
    : givenBack own stack = none := by
  unfold givenBack
  split
  next => rfl
  next unlike => exact Decidable.byContradiction fun some => known ⟨some, unlike⟩

end GivenBack

/-- A stack is mapped, with its guard page. -/
def Fittings.withStack (fittings : Fittings) (stack : Address) : Fittings :=
  { fittings with altStack := some stack, mapped := stack :: fittings.mapped }

/-- A stack is mapped and registered for a thread. -/
def Fittings.withRegistered (fittings : Fittings) (thread : ThreadId) (stack : Address)
    : Fittings :=
  { fittings.withStack stack with
    previousStack := givenBack (fittings.threads thread).altStack stack
    threads := relet fittings.threads thread (some stack) }

/-- What is fitted in the end when a call was refused. -/
def Stage.leftover (fittings : Fittings) (thread : ThreadId) (stack : Address)
    : Stage → Fittings
  | mapping | guarding => fittings
  | registering => fittings.withStack stack
  | handling _ =>
    { fittings with
      threads := relet fittings.threads thread
        (givenBack (fittings.threads thread).altStack stack) }

namespace Stage

variable {fittings : Fittings} {thread : ThreadId} {stack : Address} (stage : Stage)

/-- What is left over has the flags as they were. -/
theorem enabled_leftover : (stage.leftover fittings thread stack).enabled = fittings.enabled := by
  cases stage <;> rfl

/-- What is left over has the earlier stack on record as it was. -/
theorem previousStack_leftover
    : (stage.leftover fittings thread stack).previousStack = fittings.previousStack := by
  cases stage <;> rfl

/-- Every thread has the stack registered that it had. A registration that named the new
stack's place already is dropped, if it came to one.
-/
theorem registered_leftover (other : ThreadId)
    : ((stage.leftover fittings thread stack).threads other).altStack
      = if stage.hasStack ∧ other = thread ∧ (fittings.threads other).altStack = some stack
        then none
        else (fittings.threads other).altStack := by
  cases stage with
  | mapping | guarding | registering => rfl
  | handling signal =>
      rw [leftover, altStack_relet, givenBack]
      by_cases here : other = thread
      · rw [if_pos here, here]
        by_cases stale : (fittings.threads thread).altStack = some stack
        · rw [if_pos stale, if_pos ⟨rfl, rfl, stale⟩]
        · rw [if_neg stale, if_neg fun all => stale all.2.2]
      · rw [if_neg here, if_neg fun all => here all.2.1]

/-- A stack stays mapped if its registration was refused, and only then. -/
theorem mapped_leftover_iff (unmapped : fittings.altStack = none)
    : (stage.leftover fittings thread stack).altStack = none
        ∧ (stage.leftover fittings thread stack).mapped = fittings.mapped
      ↔ stage ≠ registering := by
  cases stage with
  | mapping | guarding | handling _ =>
      refine iff_of_true ⟨unmapped, rfl⟩ ?_
      rintro ⟨⟩
  | registering =>
      refine iff_of_false ?_ fun other => other rfl
      rintro ⟨gone, _⟩
      cases gone

end Stage

namespace AltStack

open Stage (firstRefusal?)

/-- A stack is mapped and guarded, unless the kernel refuses one of it. -/
theorem provide_fits (unmapped : process.altStack = none)
    : let stack := host.kernel.placement process.mappings
      (provide host).Ensures (fun _ => True)
        (fun result after =>
          match firstRefusal? host.kernel [.mapping, .guarding] with
          | some (stage, errno) =>
            result = .error (stage.failure errno)
            ∧ after.fittings = stage.leftover process.fittings host.thread stack
          | none => result = .ok stack ∧ after.fittings = process.fittings.withStack stack)
        process := by
  intro stack
  rw [provide, ensures_bind, ensures_ask, unmapped]
  simp only [Stage.firstRefusal?_cons, Stage.refusal?]
  refine ⟨trivial, ?_⟩
  cases host.kernel.mapStack with
  | some errno => exact ⟨rfl, rfl⟩
  | none =>
      refine ensures_bind.mpr ⟨trivial, ?_⟩
      cases host.kernel.guardStack with
      | some errno =>
          refine ensures_bind.mpr ⟨trivial, rfl, ?_⟩
          simp only [Process.fittings, List.erase_cons_head, Stage.leftover]
      | none =>
          refine ensures_bind.mpr ⟨trivial, ensures_bind.mpr ?_⟩
          exact ((Action.hidden_fittings.diagnose _ _ _).leaves _).mono (fun _ _ => trivial)
            fun _ after same => ⟨rfl, same⟩

/-- The stack is registered, unless the kernel refuses that or one of the calls before. -/
theorem install_fits (unmapped : process.altStack = none) (settled : process.previousStack = none)
    (ashore : (process.threads host.thread).onAltStack = false)
    : let stack := host.kernel.placement process.mappings
      (install host).Ensures (fun _ => True)
        (fun result after =>
          match firstRefusal? host.kernel [.mapping, .guarding, .registering] with
          | some (stage, errno) =>
            result = .error (stage.failure errno)
            ∧ after.fittings = stage.leftover process.fittings host.thread stack
          | none =>
            result = .ok ()
            ∧ host.kernel.registerStack = none
            ∧ after.fittings = process.fittings.withRegistered host.thread stack)
        process := by
  intro stack
  have order : [Stage.mapping, .guarding, .registering] = [.mapping, .guarding] ++ [.registering] :=
    rfl
  rw [install, ensures_bind, order, Stage.firstRefusal?_append]
  refine (provide_fits unmapped).mono (fun _ _ => trivial) fun result found reached => ?_
  cases refusal : firstRefusal? host.kernel [.mapping, .guarding] with
  | some refused =>
      rw [refusal] at reached
      obtain ⟨rfl, same⟩ := reached
      exact ⟨rfl, same⟩
  | none =>
      rw [refusal] at reached
      obtain ⟨rfl, same⟩ := reached
      have threads : found.threads = process.threads := congrArg Fittings.threads same
      rw [Option.none_or, Stage.firstRefusal?_cons, Stage.refusal?]
      refine ensures_bind.mpr ?_
      cases refused : host.kernel.registerStack with
      | some errno =>
          rw [register, refused]
          exact ⟨rfl, same⟩
      | none =>
          refine (ensures_register refused (threads ▸ ashore)).mpr ⟨trivial, ?_⟩
          have own : found.registered host.thread = (process.threads host.thread).altStack := by
            rw [Process.registered, threads]
          have fitted
              : (registering found host.thread (some stack)).fittings
                = { process.fittings.withStack stack with
                  threads := relet process.threads host.thread (some stack) } := by
            rw [← same, ← threads]
            rfl
          dsimp only
          rw [own]
          by_cases foreign : (process.threads host.thread).altStack ≠ none
            ∧ (process.threads host.thread).altStack ≠ some stack
          · have kept
                : givenBack (process.fittings.threads host.thread).altStack stack
                  = (process.threads host.thread).altStack := givenBack_of_foreign foreign
            rw [if_pos foreign]
            refine ensures_bind.mpr ⟨trivial, rfl, rfl, ?_⟩
            show { (registering found host.thread (some stack)).fittings with
              previousStack := (process.threads host.thread).altStack } = _
            rw [fitted, Fittings.withRegistered, kept]
            rfl
          · have kept
                : givenBack (process.fittings.threads host.thread).altStack stack
                  = process.previousStack :=
              (givenBack_of_not_foreign foreign).trans settled.symm
            rw [if_neg foreign]
            refine ⟨rfl, rfl, ?_⟩
            rw [fitted, Fittings.withRegistered, kept]
            rfl

/-- The stack that was registered before is registered again, and the monitor's is unmapped. -/
theorem release_fits {before : Fittings} {stack : Address}
    (accepted : host.kernel.registerStack = none) (unmapped : before.altStack = none)
    (settled : before.previousStack = none)
    (ashore : (before.threads host.thread).onAltStack = false)
    (here : process.fittings = before.withRegistered host.thread stack) (signal : FatalSignal)
    : (release host).Ensures (fun _ => True)
        (fun _ after =>
          after.fittings = (Stage.handling signal).leftover before host.thread stack)
        process := by
  have altStack : process.altStack = some stack := congrArg Fittings.altStack here
  have previous : process.previousStack = givenBack (before.threads host.thread).altStack stack :=
    congrArg Fittings.previousStack here
  have mapped : process.mapped.erase stack = before.mapped := by
    rw [show process.mapped = stack :: before.mapped from congrArg Fittings.mapped here,
      List.erase_cons_head]
  have threads : process.threads = relet before.threads host.thread (some stack) :=
    congrArg Fittings.threads here
  have still : (process.threads host.thread).onAltStack = false := by
    rw [threads, relet, if_pos rfl]
    exact ashore
  rw [release, ensures_bind, ensures_ask, altStack]
  refine ⟨trivial, ?_⟩
  rw [ensures_bind, Host.askThread, ensures_ask, still]
  refine ⟨trivial, ?_⟩
  refine ensures_bind.mpr ⟨trivial, ensures_bind.mpr ?_⟩
  refine (ensures_register accepted ?_).mpr ⟨trivial, trivial, ?_⟩
  · exact still
  · show { process.fittings with
      threads := relet process.threads host.thread process.previousStack
      altStack := none
      previousStack := none
      mapped := process.mapped.erase stack } = _
    rw [here, previous, mapped, threads, relet_relet, Stage.leftover, unmapped, settled]
    rfl

end AltStack

-----------------------------------------------------------------------------------------
-- The whole attempt
-----------------------------------------------------------------------------------------

/-- A monitor that was off is off again. -/
theorem Selection.put_false_put_true {selection : Selection} {monitor : Monitor}
    (off : selection.contains monitor = false)
    : (selection.put true monitor).put false monitor = selection := by
  obtain ⟨signal, panic, user⟩ := selection
  cases monitor <;> cases off <;> rfl

namespace Activation

open Handlers Stage

/-- Before anything is installed: no stack is mapped, nothing is on record of an earlier one or
of dispositions, and the running thread is on its ordinary stack.
-/
structure Bare (host : Host) (process : Process) : Prop where
  unmapped : process.altStack = none
  settled : process.previousStack = none
  ashore : (process.threads host.thread).onAltStack = false
  empty : process.table = {}

/-- Where nothing is installed, nothing is held. -/
theorem Bare.holding (bare : Bare host process) : Holding process.dispositions [] process where
  dispositions := rfl
  slots := by rw [bare.empty, saved_nil]
  counted := by
    rw [bare.empty]
    rfl

/-- An attempt that nothing refuses succeeds. One that is refused changes no disposition, and
of what is fitted it leaves what its stage leaves.
-/
def Attempted (host : Host) (process : Process) (result : Except Failure Unit) (after : Process)
    : Prop :=
  match firstRefusal? host.kernel Stage.all with
  | none => result = .ok ()
  | some (stage, errno) =>
    result = .error (stage.failure errno)
    ∧ after.installed = process.installed
    ∧ after.fittings
      = stage.leftover process.fittings host.thread (host.kernel.placement process.mappings)

/-- A success says the same of every process that it starts from. -/
theorem Attempted.of_ok {other after later : Process}
    (attempted : Attempted host other (.ok ()) after)
    : Attempted host process (.ok ()) later := by
  unfold Attempted at attempted ⊢
  split at attempted
  next => rfl
  next => cases attempted.1

/-- Installing stack and handlers comes to a success, or to the first stage that is refused
with what it leaves over.
-/
theorem installHandlers_attempted (bare : Bare host process)
    (restores : ∀ signal, host.kernel.install signal = none → host.kernel.restore signal = none)
    : (installHandlers host).Ensures (fun _ => True) (Attempted host process) process := by
  unfold Attempted
  rw [installHandlers, ensures_bind, Stage.all, firstRefusal?_append, firstRefusal?_handling]
  refine ((AltStack.install_fits bare.unmapped bare.settled bare.ashore).and
    ((AltStack.hidden_core.install host).leaves process)).mono (fun _ _ => trivial) ?_
  rintro result provided ⟨fits, core⟩
  have settled : provided.installed = process.installed := congrArg Prod.snd core
  cases refusal : firstRefusal? host.kernel [mapping, guarding, registering] with
  | some refused =>
      rw [refusal] at fits
      obtain ⟨rfl, left⟩ := fits
      exact ⟨rfl, settled, left⟩
  | none =>
      rw [refusal] at fits
      obtain ⟨rfl, accepted, registered⟩ := fits
      have held : Holding process.dispositions [] provided := bare.holding.of_core core
      have putsBack (signal : FatalSignal)
          (tried : signal ∈ [] ++ FatalSignal.all.takeWhile (accepts host))
          : host.kernel.restore signal = none := by
        have taken : accepts host signal = true := List.mem_takeWhile_imp tried
        exact restores signal (Option.isNone_iff_eq_none.mp taken)
      rw [Option.none_or, ensures_bind]
      refine ((installEach_ensures putsBack (List.nil_append FatalSignal.all) held).and
        ((Handlers.hidden_fittings.install host).leaves provided)).mono (fun _ _ => trivial) ?_
      rintro result installed ⟨ends, same⟩
      unfold Settled at ends
      cases find : FatalSignal.all.find? fun signal => !accepts host signal with
      | none =>
          rw [find] at ends
          obtain ⟨rfl, _⟩ := ends
          exact rfl
      | some signal =>
          rw [find] at ends
          obtain ⟨errno, answer, rfl, empty⟩ := ends
          rw [Option.bind_some, answer, ensures_bind]
          refine ((AltStack.release_fits accepted bare.unmapped bare.settled bare.ashore
            (same.trans registered) signal).and
              ((AltStack.hidden_core.release host).leaves installed)).mono (fun _ _ => trivial) ?_
          rintro _ after ⟨left, core⟩
          have back : Holding process.dispositions [] after := empty.of_core core
          refine ⟨rfl, ?_, left⟩
          show Installed.mk after.dispositions after.table = Installed.mk _ process.table
          rw [back.dispositions, back.table_eq, bare.empty]
          rfl

/-- The identifier of the next event is no part of what an attempt leaves. -/
theorem installSignals_attempted (bare : Bare host process)
    (restores : ∀ signal, host.kernel.install signal = none → host.kernel.restore signal = none)
    : (installSignals host).Ensures (fun _ => True) (Attempted host process) process := by
  rw [installSignals, ensures_bind, Host.issue, ensures_exchange]
  refine ⟨trivial, ?_⟩
  rw [ensures_bind, storeId, ensures_bind, ensures_modify, ensures_modify, ensures_bind]
  refine ⟨trivial, trivial, ?_⟩
  have named : Bare host { process with
      issued := process.issued + 1
      signalId := host.ids process.issued } :=
    ⟨bare.unmapped, bare.settled, bare.ashore, bare.empty⟩
  refine (installHandlers_attempted named restores).mono (fun _ _ => trivial)
    fun result after attempted => ?_
  cases result with
  | error failure => exact attempted
  | ok _ =>
      rw [ensures_bind]
      exact ((Action.hidden_fittings.diagnose _ _ _).leaves after).mono (fun _ _ => trivial)
        fun _ _ _ => attempted.of_ok

/-- The flag is no part of what an attempt leaves either: it is taken back. -/
theorem setSignals_attempted (off : process.enabled.signal = false) (bare : Bare host process)
    (restores : ∀ signal, host.kernel.install signal = none → host.kernel.restore signal = none)
    : (setSignals host true).Ensures (fun _ => True)
        (fun result after =>
          Attempted host process result after
          ∧ (result = .ok () → after.enabled.signal = true))
        process := by
  have switched : Bare host { process with enabled := process.enabled.put true .signal } :=
    ⟨bare.unmapped, bare.settled, bare.ashore, bare.empty⟩
  have takenBack : (process.enabled.put true .signal).put false .signal = process.enabled :=
    Selection.put_false_put_true off
  rw [setSignals, ensures_bind, ensures_swap]
  refine ⟨trivial, ?_⟩
  simp only [Selection.contains, off]
  refine ensures_bind.mpr ?_
  refine ((installSignals_attempted switched restores).and
    (unwatched_installSignals host _)).mono (fun _ _ => trivial) ?_
  rintro result after ⟨attempted, unwatched⟩
  cases result with
  | ok _ => exact ⟨attempted.of_ok, fun _ => congrArg (·.enabled.signal) unwatched⟩
  | error failure =>
      refine ensures_bind.mpr ⟨trivial, ?_, fun succeeded => by cases succeeded⟩
      unfold Attempted at attempted ⊢
      split at attempted
      next => cases attempted
      next stage errno refused =>
        obtain ⟨same, installed, left⟩ := attempted
        refine ⟨same, installed, ?_⟩
        have flags : after.enabled = process.enabled.put true .signal :=
          congrArg Watch.enabled unwatched
        show { after.fittings with enabled := after.enabled.put false .signal } = _
        rw [flags, takenBack, left]
        cases stage <;> rfl

/-- Turning the monitor on fails with the first call that is refused, and succeeds if none is.
After a failure the monitor is off, and the dispositions, the table and the record of an earlier
stack are as before. No stack stays mapped, unless it was its registration that was refused:
that one is kept. Every thread has the stack registered that it had; only a registration that
named the place of the new stack before anything was mapped there is dropped with that stack.
-/
theorem refusal_leaves_only_unregistered_stack (off : process.enabled.signal = false)
    (bare : Bare host process)
    (restores : ∀ signal, host.kernel.install signal = none → host.kernel.restore signal = none)
    : let stack := host.kernel.placement process.mappings
      match firstRefusal? host.kernel Stage.all with
      | none => ∃ after,
        (setEnabled host true .signal).run process = (some (.ok ()), after)
        ∧ after.enabled.signal = true
      | some (stage, errno) => ∃ after,
        (setEnabled host true .signal).run process = (some (.error (stage.failure errno)), after)
        ∧ after.enabled = process.enabled
        ∧ after.dispositions = process.dispositions
        ∧ after.table = {}
        ∧ after.previousStack = none
        ∧ (∀ thread,
            after.registered thread
            = if stage.hasStack ∧ thread = host.thread ∧ process.registered thread = some stack
              then none
              else process.registered thread)
        ∧ (after.altStack = none ∧ after.mapped = process.mapped ↔ stage ≠ registering)
        ∧ (stage = registering →
            after.altStack = some stack ∧ after.mapped = stack :: process.mapped) := by
  intro stack
  obtain ⟨result, after, ends⟩ := ends_setSignals host true process
  obtain ⟨attempted, turnedOn⟩ := (setSignals_attempted off bare restores).run_eq ends
  unfold Attempted at attempted
  split
  next none =>
    rw [none] at attempted
    exact ⟨after, attempted ▸ ends, turnedOn attempted⟩
  next stage errno refused =>
    rw [refused] at attempted
    obtain ⟨rfl, installed, left⟩ := attempted
    have altStack : after.altStack = _ := congrArg Fittings.altStack left
    have mapped : after.mapped = _ := congrArg Fittings.mapped left
    refine ⟨after, ends, ?_, congrArg Installed.dispositions installed,
      (congrArg Installed.table installed).trans bare.empty, ?_, fun thread => ?_, ?_, ?_⟩
    · exact (congrArg Fittings.enabled left).trans (enabled_leftover stage)
    · exact (congrArg Fittings.previousStack left).trans
        ((previousStack_leftover stage).trans bare.settled)
    · have registered : after.registered thread = _ :=
        congrArg (fun fittings => (fittings.threads thread).altStack) left
      exact registered.trans (registered_leftover stage thread)
    · rw [altStack, mapped]
      exact mapped_leftover_iff stage bare.unmapped
    · rintro rfl
      exact ⟨altStack, mapped⟩

/-- The plainest surroundings, but nothing may be done about one signal. -/
def withoutPipe : Host :=
  let refusal (signal : FatalSignal) : Option Errno :=
    if signal = .pipe then some .notPermitted else none
  { Host.plain with kernel := { install := refusal, restore := refusal } }

/-- A thread with a stack of its own has it back when the fifth handler is refused. -/
theorem refusal_leaves_only_unregistered_stack_of_refused_handler
    : Process.twoStacks.enabled.signal = false
      ∧ Bare withoutPipe .twoStacks
      ∧ (∀ signal,
          withoutPipe.kernel.install signal = none → withoutPipe.kernel.restore signal = none)
      ∧ ∃ after,
          (setEnabled withoutPipe true .signal).run .twoStacks
            = (some (.error (.hookInstall "SIGPIPE" (Errno.named .notPermitted))), after)
          ∧ after.dispositions = Process.twoStacks.dispositions
          ∧ after.altStack = none
          ∧ after.mapped = []
          ∧ after.registered ⟨1⟩ = some (.ofNat 0x1000) := by
  have bare : Bare withoutPipe .twoStacks := ⟨rfl, rfl, rfl, rfl⟩
  have restores (signal : FatalSignal) (accepted : withoutPipe.kernel.install signal = none)
      : withoutPipe.kernel.restore signal = none := accepted
  have first
      : firstRefusal? withoutPipe.kernel Stage.all = some (handling .pipe, .notPermitted) := by
    decide
  have refused := refusal_leaves_only_unregistered_stack rfl bare restores
  rw [first] at refused
  obtain ⟨after, ends, _, dispositions, _, _, registered, mapped, _⟩ := refused
  obtain ⟨unmapped, same⟩ := mapped.mpr nofun
  exact ⟨rfl, bare, restores, after, ends, dispositions, unmapped, same,
    (registered ⟨1⟩).trans (by decide)⟩

/-- A stack that cannot be registered is still mapped after the attempt has failed. -/
theorem unregistered_stack_stays_mapped
    : let host : Host := { Host.plain with kernel := { registerStack := some .notPermitted } }
      let attempt := (setEnabled host true .signal).run .fresh
      attempt.1 = some (.error (AltStack.fault "sigaltstack" .notPermitted))
      ∧ Process.fresh.altStack = none
      ∧ ∃ stack, attempt.2.altStack = some stack ∧ attempt.2.mapped = [stack] :=
  ⟨by decide +kernel, rfl, .ofNat 0x7F0000000000, by decide +kernel⟩

end Activation

end CrashCapture
