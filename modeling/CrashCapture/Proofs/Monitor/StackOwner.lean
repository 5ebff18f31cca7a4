import CrashCapture.Proofs.Monitor.Fittings
import CrashCapture.Proofs.Monitor.HandlerBalance

/-! Whose the stack is that handlers run on. A stack is registered for one thread, but what
that thread had before, and the stack itself, are on record for the whole process: whichever
thread turns the signal monitor off is given back the stack of the one that turned it on, and
unmaps the stack that the other one still has.
-/

namespace CrashCapture

open Steps

variable {host : Host} {process : Process} {own : ThreadId → Option Address}

/-- The stack that a thread has registered. -/
def Process.registered (process : Process) (thread : ThreadId) : Option Address :=
  (process.threads thread).altStack

-----------------------------------------------------------------------------------------
-- A stack that is lent to a thread
-----------------------------------------------------------------------------------------

/-- Every thread has a stack of its own registered or one that is still mapped, and none of
those that are mapped is a thread's own.
-/
structure Intact (own : ThreadId → Option Address) (process : Process) : Prop where
  usable
    : ∀ thread stack,
        process.registered thread = some stack
          → stack ∈ process.mapped ∨ own thread = some stack
  foreign : ∀ stack ∈ process.mapped, ∀ thread, own thread ≠ some stack

/-- The monitor's stack is registered for its owner, if it has one, who gets back its own one
later; all other threads have theirs.
-/
structure Lent (own : ThreadId → Option Address) (owner : Option ThreadId)
    (process : Process)
    : Prop where
  still : ∀ thread, (process.threads thread).onAltStack = false
  mapped : process.mapped = process.altStack.toList
  foreign : ∀ stack ∈ process.mapped, ∀ thread, own thread ≠ some stack
  registered
    : ∀ thread,
        process.registered thread = if owner = some thread then process.altStack else own thread
  previous : process.previousStack = owner.bind own
  present : owner.isSome = true → process.altStack.isSome = true

/-- The monitor is on exactly while its stack has an owner. -/
structure AtRest (own : ThreadId → Option Address) (owner : Option ThreadId)
    (process : Process)
    : Prop extends Lent own owner process where
  flag : process.enabled.signal = owner.isSome

namespace Lent

variable {owner : Option ThreadId} {after : Process}

theorem of_fittings (same : after.fittings = process.fittings) (lent : Lent own owner process)
    : Lent own owner after := by
  have threads : after.threads = process.threads := congrArg Fittings.threads same
  have altStack : after.altStack = process.altStack := congrArg Fittings.altStack same
  have previous : after.previousStack = process.previousStack :=
    congrArg Fittings.previousStack same
  have mapped : after.mapped = process.mapped := congrArg Fittings.mapped same
  refine ⟨?_, ?_, ?_, ?_, ?_, ?_⟩
  · exact fun thread => threads ▸ lent.still thread
  · rw [mapped, altStack, lent.mapped]
  · exact mapped ▸ lent.foreign
  · intro thread
    rw [Process.registered, threads, altStack]
    exact lent.registered thread
  · rw [previous, lent.previous]
  · exact altStack ▸ lent.present

/-- What the owner has is mapped, and everyone else has its own one. -/
theorem intact (lent : Lent own owner process) : Intact own process where
  usable thread stack found := by
    rw [lent.registered] at found
    split at found
    · left
      rw [lent.mapped, found]
      exact List.mem_singleton_self stack
    · exact .inr found
  foreign := lent.foreign

theorem switched (lent : Lent own owner process) (enabled : Selection)
    : Lent own owner { process with enabled := enabled } :=
  ⟨lent.still, lent.mapped, lent.foreign, lent.registered, lent.previous, lent.present⟩

end Lent

/-- What shows nothing of stacks leaves the loan as it is. -/
theorem Lent.of_detached {α : Type} {action : Action α} (detached : action.Detached)
    (owner : Option ThreadId)
    : action.Maintains (Intact own) (Lent own owner) :=
  .of_leaves (fun _ lent => lent.intact) Lent.of_fittings detached.leaves

-----------------------------------------------------------------------------------------
-- Mapping, registering and releasing
-----------------------------------------------------------------------------------------

namespace AltStack

/-- A host maps stacks where no thread has one of its own. -/
def Places (own : ThreadId → Option Address) (host : Host) : Prop :=
  ∀ index thread, own thread ≠ some (host.kernel.placement index)

/-- A process once a thread has another stack registered. -/
def registering (process : Process) (thread : ThreadId) (stack : Option Address) : Process :=
  process.updateThread thread fun state => { state with altStack := stack }

theorem registered_registering (process : Process) (thread other : ThreadId)
    (stack : Option Address)
    : (registering process thread stack).registered other
      = if other = thread then stack else process.registered other := by
  unfold registering Process.updateThread Process.registered
  dsimp only
  split <;> rfl

theorem still_registering (still : ∀ thread, (process.threads thread).onAltStack = false)
    (thread : ThreadId) (stack : Option Address) (other : ThreadId)
    : ((registering process thread stack).threads other).onAltStack = false := by
  unfold registering Process.updateThread
  dsimp only
  split
  · exact still thread
  · exact still other

/-- Where the kernel does not refuse it, a thread that is not on its stack gets another one. -/
theorem ensures_register {always : Process → Prop}
    {post : Except Errno (Option Address) → Process → Prop} {stack : Option Address}
    (accepted : host.kernel.registerStack = none)
    (still : (process.threads host.thread).onAltStack = false)
    : (register host stack).Ensures always post process
      ↔ always (registering process host.thread stack)
        ∧ post (.ok (process.registered host.thread))
            (registering process host.thread stack) := by
  have changed
      : (process.updateThread host.thread fun thread =>
          if thread.onAltStack then thread else { thread with altStack := stack })
        = registering process host.thread stack := by
    simp [registering, Process.updateThread, still]
  rw [register, accepted]
  dsimp only
  rw [ensures_exchange, changed, still]
  rfl

end AltStack

namespace Lent

open AltStack

variable {owner : Option ThreadId} {stack : Address}

theorem mapped_eq (lent : Lent own owner process) (found : process.altStack = some stack)
    : process.mapped = [stack] := by
  rw [lent.mapped, found]
  rfl

theorem mem_mapped (lent : Lent own owner process) (found : process.altStack = some stack)
    : stack ∈ process.mapped := by
  rw [lent.mapped_eq found]
  exact List.mem_singleton_self stack

theorem ne_own (lent : Lent own owner process) (found : process.altStack = some stack)
    (thread : ThreadId)
    : own thread ≠ some stack := lent.foreign stack (lent.mem_mapped found) thread

/-- The stack may be registered for a thread, whose own one is not on record yet. -/
theorem intact_registering (free : Lent own none process)
    (found : process.altStack = some stack) (thread : ThreadId)
    : Intact own (registering process thread (some stack)) := by
  refine ⟨fun other has registered => ?_, free.foreign⟩
  rw [registered_registering] at registered
  split at registered
  · left
    rw [← Option.some.inj registered]
    exact free.mem_mapped found
  · exact .inr ((free.registered other).symm.trans registered)

/-- A stack that nobody has is lent to a thread whose own one is on record. -/
theorem lend (free : Lent own none process) (found : process.altStack = some stack)
    {thread : ThreadId} {after : Process}
    (threads : after.threads = (registering process thread (some stack)).threads)
    (altStack : after.altStack = process.altStack) (mapped : after.mapped = process.mapped)
    (previous : after.previousStack = own thread)
    : Lent own (some thread) after := by
  refine ⟨?_, ?_, ?_, fun other => ?_, previous, fun _ => by rw [altStack, found]; rfl⟩
  · rw [threads]
    exact still_registering free.still _ _
  · rw [mapped, altStack, free.mapped]
  · rw [mapped]
    exact free.foreign
  · have registered := registered_registering process thread other (some stack)
    rw [Process.registered] at registered ⊢
    rw [threads, registered, altStack, found]
    by_cases isOwner : other = thread
    · rw [if_pos isOwner, if_pos (congrArg some isOwner.symm)]
    · rw [if_neg isOwner, if_neg fun same => isOwner (Option.some.inj same).symm]
      exact free.registered other

end Lent

namespace AltStack

/-- A stack is mapped for nobody yet, unless that is refused. -/
theorem provide_ensures (places : Places own host) (lent : Lent own none process)
    : (provide host).Ensures (Intact own)
        (fun result after =>
          Lent own none after ∧ ∀ stack, result = .ok stack → after.altStack = some stack)
        process := by
  rw [provide, ensures_bind, ensures_ask]
  refine ⟨lent.intact, ?_⟩
  cases mapped : process.altStack with
  | some stack => exact ⟨lent, fun other same => mapped.trans (by rw [Except.ok.inj same])⟩
  | none =>
      have empty : process.mapped = [] := by
        rw [lent.mapped, mapped]
        rfl
      cases host.kernel.mapStack with
      | some errno => exact ⟨lent, nofun⟩
      | none =>
          have here : Intact own { process with
              mappings := process.mappings + 1
              mapped := host.kernel.placement process.mappings :: process.mapped } := by
            refine ⟨fun thread stack found => ?_, fun stack member thread => ?_⟩
            · exact .inr ((lent.registered thread).symm.trans found)
            · rw [empty, List.mem_singleton] at member
              exact member ▸ places process.mappings thread
          refine ensures_bind.mpr ⟨here, ?_⟩
          cases host.kernel.guardStack with
          | some errno =>
              have back : Lent own none { process with
                  mappings := process.mappings + 1
                  mapped := (host.kernel.placement process.mappings :: process.mapped).erase
                    (host.kernel.placement process.mappings) } := by
                rw [List.erase_cons_head]
                exact ⟨lent.still, lent.mapped, lent.foreign, lent.registered, lent.previous, nofun⟩
              exact ensures_bind.mpr ⟨back.intact, back, nofun⟩
          | none =>
              have kept : Lent own none { process with
                  mappings := process.mappings + 1
                  mapped := host.kernel.placement process.mappings :: process.mapped
                  altStack := some (host.kernel.placement process.mappings) } := by
                refine ⟨lent.still, ?_, here.foreign, ?_, lent.previous, nofun⟩
                · rw [empty]
                  rfl
                · exact lent.registered
              refine ensures_bind.mpr ⟨kept.intact, ensures_bind.mpr ?_⟩
              refine ((Action.hidden_fittings.diagnose _ _ _).leaves _).mono
                (fun _ same => (kept.of_fittings same).intact) fun _ after same => ?_
              refine ⟨kept.of_fittings same, fun stack answer => ?_⟩
              have altStack := congrArg Fittings.altStack same
              exact altStack.trans (by rw [← Except.ok.inj answer]; rfl)

/-- The stack is registered for the running thread, whose own one is kept for later, unless
that is refused.
-/
theorem install_ensures (places : Places own host) (lent : Lent own none process)
    : (install host).Ensures (Intact own)
        (fun result after =>
          match result with
          | .error _ => Lent own none after
          | .ok _ =>
            host.kernel.registerStack = none ∧ Lent own (some host.thread) after)
        process := by
  rw [install, ensures_bind]
  refine (provide_ensures places lent).mono (fun _ intact => intact)
    fun result found ⟨free, here⟩ => ?_
  cases result with
  | error failure => exact free
  | ok stack =>
      have there : found.altStack = some stack := here stack rfl
      refine ensures_bind.mpr ?_
      cases refused : host.kernel.registerStack with
      | some errno =>
          rw [register, refused]
          exact free
      | none =>
          refine (ensures_register refused (free.still _)).mpr
            ⟨free.intact_registering there host.thread, ?_⟩
          have before : found.registered host.thread = own host.thread := free.registered _
          have unlike : own host.thread ≠ some stack := free.ne_own there host.thread
          dsimp only
          rw [before]
          cases has : own host.thread with
          | none =>
              rw [if_neg fun both => both.1 rfl]
              exact ⟨rfl, free.lend there rfl rfl rfl (free.previous.trans has.symm)⟩
          | some earlier =>
              rw [if_pos ⟨nofun, has ▸ unlike⟩]
              have lent : Lent own (some host.thread)
                  { registering found host.thread (some stack) with
                    previousStack := some earlier } := free.lend there rfl rfl rfl has.symm
              exact ensures_bind.mpr ⟨lent.intact, rfl, lent⟩

/-- Its owner gives the stack back and has its own one again. -/
theorem release_ensures (accepted : host.kernel.registerStack = none)
    (lent : Lent own (some host.thread) process)
    : (release host).Ensures (Intact own) (fun _ after => Lent own none after) process := by
  obtain ⟨stack, found⟩ := Option.isSome_iff_exists.mp (lent.present rfl)
  let taken : Process := { process with previousStack := none }
  have still : ∀ thread, (taken.threads thread).onAltStack = false := lent.still
  have back (thread : ThreadId)
      : (registering taken host.thread process.previousStack).registered thread = own thread := by
    rw [registered_registering, lent.previous]
    split
    next same => rw [same, Option.bind_some]
    next other =>
      exact (lent.registered thread).trans
        (if_neg fun same => other (Option.some.inj same).symm)
  have free : Lent own none { registering taken host.thread process.previousStack with
      mapped := process.mapped.erase stack
      altStack := none } := by
    refine ⟨still_registering still _ _, ?_, ?_, back, rfl, nofun⟩
    · rw [lent.mapped_eq found, List.erase_cons_head]
      rfl
    · rw [lent.mapped_eq found, List.erase_cons_head]
      exact fun _ member => absurd member List.not_mem_nil
  rw [release, ensures_bind, ensures_ask, found]
  refine ⟨lent.intact, ?_⟩
  rw [ensures_bind, Host.askThread, ensures_ask, lent.still]
  refine ⟨lent.intact, ?_⟩
  refine ensures_bind.mpr ⟨⟨lent.intact.usable, lent.foreign⟩, ensures_bind.mpr ?_⟩
  refine (ensures_register accepted (still _)).mpr ⟨?_, free.intact, free⟩
  exact ⟨fun thread other has => .inr ((back thread).symm.trans has), lent.foreign⟩

/-- Anyone else takes the stack away from its owner, who still has it registered. -/
theorem release_strands {owner : ThreadId} {stack : Address}
    (lent : Lent own (some owner) process) (found : process.altStack = some stack)
    (other : host.thread ≠ owner ∨ host.kernel.registerStack ≠ none)
    : (release host).Ensures (fun _ => True)
        (fun _ after => after.registered owner = some stack ∧ after.mapped = []) process := by
  let taken : Process := { process with previousStack := none }
  have still : ∀ thread, (taken.threads thread).onAltStack = false := lent.still
  have kept : process.registered owner = some stack := by
    rw [lent.registered, if_pos rfl, found]
  have gone : process.mapped.erase stack = [] := by
    rw [lent.mapped_eq found, List.erase_cons_head]
  rw [release, ensures_bind, ensures_ask, found]
  refine ⟨trivial, ?_⟩
  rw [ensures_bind, Host.askThread, ensures_ask, lent.still]
  refine ⟨trivial, ?_⟩
  refine ensures_bind.mpr ⟨trivial, ensures_bind.mpr ?_⟩
  cases refused : host.kernel.registerStack with
  | some errno =>
      rw [register, refused]
      exact ⟨trivial, kept, gone⟩
  | none =>
      have unlike : owner ≠ host.thread := fun same =>
        other.elim (fun unlike => unlike same.symm) fun refuses => refuses refused
      refine (ensures_register refused (still _)).mpr
        ⟨trivial, trivial, ?_, gone⟩
      refine Eq.trans ?_ kept
      exact (registered_registering taken _ owner _).trans (if_neg unlike)

end AltStack

-----------------------------------------------------------------------------------------
-- Turning the monitor on and off
-----------------------------------------------------------------------------------------

/-- Whose the stack is after a thread turned the monitor on or off: whoever had it keeps it
while the monitor is on.
-/
def ownerAfter (owner : Option ThreadId) (host : Host) (after : Process) : Option ThreadId :=
  if after.enabled.signal then some (owner.getD host.thread) else none

namespace Activation

/-- Installing handlers lends the stack to the running thread, or leaves it to nobody. -/
theorem installHandlers_lends (places : AltStack.Places own host)
    (lent : Lent own none process)
    : (installHandlers host).Ensures (Intact own)
        (fun result after =>
          match result with
          | .error _ => Lent own none after
          | .ok _ => Lent own (some host.thread) after)
        process := by
  rw [installHandlers, ensures_bind]
  refine (AltStack.install_ensures places lent).mono (fun _ intact => intact)
    fun result provided lends => ?_
  cases result with
  | error failure => exact lends
  | ok _ =>
      obtain ⟨accepted, here⟩ := lends
      rw [ensures_bind]
      refine (Lent.of_detached (Handlers.hidden_fittings.install host) _ provided here).mono
        (fun _ intact => intact) fun result installed still => ?_
      cases result with
      | ok _ => exact still
      | error failure =>
          rw [ensures_bind]
          exact AltStack.release_ensures accepted still

theorem installSignals_lends (places : AltStack.Places own host)
    (lent : Lent own none process)
    : (installSignals host).Ensures (Intact own)
        (fun result after =>
          match result with
          | .error _ => Lent own none after
          | .ok _ => Lent own (some host.thread) after)
        process := by
  rw [installSignals, ensures_bind]
  refine (Lent.of_detached (Host.hidden_fittings.issue host) none process lent).mono
    (fun _ intact => intact) fun id issued lent => ?_
  rw [ensures_bind]
  refine (Lent.of_detached (Host.hidden_fittings.storeId id) none issued lent).mono
    (fun _ intact => intact) fun _ stored lent => ?_
  rw [ensures_bind]
  refine (installHandlers_lends places lent).mono (fun _ intact => intact)
    fun result installed lends => ?_
  cases result with
  | error failure => exact lends
  | ok _ =>
      rw [ensures_bind]
      exact Lent.of_detached (Action.hidden_fittings.diagnose _ _ _) _ installed lends

/-- Turning the monitor on leads to its stack's having an owner or none; so does turning it off
when the owner does that and the kernel lets it have its own stack back.
-/
theorem setSignals_rests {owner : Option ThreadId} {on : Bool}
    (places : AltStack.Places own host) (rests : AtRest own owner process)
    (orderly
      : on = false → ∀ thread, owner = some thread →
          host.thread = thread ∧ host.kernel.registerStack = none)
    : (setSignals host on).Ensures (Intact own)
        (fun _ after => AtRest own (ownerAfter owner host after) after) process := by
  have start := rests.switched (process.enabled.put on .signal)
  have flag : process.enabled.contains .signal = owner.isSome := rests.flag
  rw [setSignals, ensures_bind, ensures_swap, flag]
  refine ⟨start.intact, ?_⟩
  cases on with
  | false =>
      cases owner with
      | none => exact ⟨start, rfl⟩
      | some thread =>
          obtain ⟨rfl, accepted⟩ := orderly rfl thread rfl
          have released
              : (uninstallSignals host).Ensures (Intact own) (fun _ => Lent own none)
                  { process with enabled := process.enabled.put false .signal } := by
            rw [uninstallSignals, ensures_bind]
            exact (Lent.of_detached (Handlers.hidden_fittings.restore host) _ _ start).mono
              (fun _ intact => intact) fun _ _ lent => AltStack.release_ensures accepted lent
          refine ensures_bind.mpr ?_
          refine (released.and (unwatched_uninstallSignals host _)).mono
            (fun _ both => both.1) fun _ after both => ?_
          obtain ⟨lent, same⟩ := both
          have off : after.enabled.signal = false := congrArg (·.enabled.signal) same
          rw [ensures_pure, ownerAfter, off]
          exact ⟨lent, off⟩
  | true =>
      cases owner with
      | some thread => exact ⟨start, rfl⟩
      | none =>
          refine ensures_bind.mpr ?_
          refine ((installSignals_lends places start).and
            (unwatched_installSignals host _)).mono (fun _ both => both.1)
            fun result after both => ?_
          obtain ⟨lends, same⟩ := both
          cases result with
          | ok _ =>
              have on : after.enabled.signal = true := congrArg (·.enabled.signal) same
              rw [ensures_pure, ownerAfter, on]
              exact ⟨lends, on⟩
          | error failure =>
              have off := Lent.switched lends (after.enabled.put false .signal)
              exact ⟨off.intact, off, rfl⟩

/-- When anyone else turns the monitor off, its owner is left with a stack that is no longer
mapped.
-/
theorem setSignals_strands {owner : ThreadId} (rests : AtRest own (some owner) process)
    (other : host.thread ≠ owner ∨ host.kernel.registerStack ≠ none)
    : ∃ stack ∈ process.mapped,
        (setSignals host false).Ensures (fun _ => True)
          (fun _ after => after.registered owner = some stack ∧ after.mapped = []) process := by
  obtain ⟨stack, found⟩ := Option.isSome_iff_exists.mp (rests.present rfl)
  have start := rests.switched (process.enabled.put false .signal)
  have flag : process.enabled.contains .signal = true := rests.flag
  have same
      : (Handlers.restore host).Ensures (fun _ => True)
          (fun _ after => Lent own (some owner) after ∧ after.altStack = some stack)
          { process with enabled := process.enabled.put false .signal } :=
    ((Handlers.hidden_fittings.restore host).leaves _).mono (fun _ _ => trivial)
      fun _ after same =>
        ⟨start.of_fittings same, (congrArg Fittings.altStack same).trans found⟩
  refine ⟨stack, rests.mem_mapped found, ?_⟩
  rw [setSignals, ensures_bind, ensures_swap, flag]
  refine ⟨trivial, ensures_bind.mpr ?_⟩
  rw [uninstallSignals, ensures_bind]
  refine same.mono (fun _ _ => trivial) fun _ restored both => ?_
  obtain ⟨lent, found⟩ := both
  exact AltStack.release_strands lent found other

theorem ends_setSignals (host : Host) (on : Bool) : (setSignals host on).Ends := by
  cases on with
  | false => exact ends_setEnabled_false host .signal
  | true =>
      refine .bind (.exchange _ _) fun was => ?_
      split
      · exact .pure _
      · refine .bind ?_ fun result => ?_
        · refine .bind (.exchange _ _) fun id => ?_
          refine .bind (.bind (.modify _) fun _ => .modify _) fun _ => ?_
          refine .bind ?_ fun result => ?_
          · refine .bind (AltStack.ends_install host) fun provided => ?_
            cases provided with
            | error failure => exact .pure _
            | ok _ =>
                refine .bind (Handlers.ends_installEach host _) fun installed => ?_
                cases installed with
                | ok _ => exact .pure _
                | error failure => exact .bind (AltStack.ends_release host) fun _ => .pure _
          · cases result with
            | error failure => exact .pure _
            | ok _ => exact .bind (.modify _) fun _ => .pure _
        · cases result with
          | ok _ => exact .pure _
          | error failure => exact .bind (.exchange _ _) fun _ => .pure _

end Activation

-----------------------------------------------------------------------------------------
-- Any threads, one after the other
-----------------------------------------------------------------------------------------

/-- Threads turn the signal monitor on and off, each call complete before the next one. -/
def switchEach : List (Host × Bool) → Action Unit
  | [] => return ()
  | (host, on) :: rest => do
    let _ ← Activation.setSignals host on
    switchEach rest

/-- Whenever the monitor is turned off while it is on, the thread that turned it on does that,
and the kernel lets it have its own stack back.
-/
def OwnerReleases (owner : Option ThreadId) : List (Host × Bool) → Process → Prop
  | [], _ => True
  | (host, on) :: rest, process =>
    (on = false → ∀ thread, owner = some thread →
      host.thread = thread ∧ host.kernel.registerStack = none)
    ∧ OwnerReleases (ownerAfter owner host ((Activation.setSignals host on).run process).2) rest
        ((Activation.setSignals host on).run process).2

/-- Whose the stack is in the end. -/
def ownerInTheEnd (owner : Option ThreadId)
    : List (Host × Bool) → Process → Option ThreadId
  | [], _ => owner
  | (host, on) :: rest, process =>
    ownerInTheEnd (ownerAfter owner host ((Activation.setSignals host on).run process).2) rest
      ((Activation.setSignals host on).run process).2

/-- No stack that was mapped in an earlier state is registered in a later one where it is not
mapped any more.
-/
def NeverStale : List Process → Prop :=
  List.Pairwise fun earlier later =>
    ∀ thread, ∀ stack ∈ earlier.mapped,
      later.registered thread = some stack → stack ∈ later.mapped

theorem NeverStale.of_intact {visited : List Process}
    (intact : ∀ process ∈ visited, Intact own process)
    : NeverStale visited := by
  refine List.pairwise_of_forall_mem_list fun earlier first later last thread stack was has => ?_
  refine ((intact later last).usable thread stack has).resolve_right ?_
  exact (intact earlier first).foreign stack was thread

/-- What was mapped at the start is mapped wherever it is registered later. -/
theorem NeverStale.later {α : Type} {run : Action α} {after : Process}
    (fresh : NeverStale (run.states process)) (member : after ∈ run.states process)
    : ∀ thread, ∀ stack ∈ process.mapped,
        after.registered thread = some stack → stack ∈ after.mapped := by
  have split : ∃ later, run.states process = process :: later := by
    cases run <;> exact ⟨_, rfl⟩
  obtain ⟨later, split⟩ := split
  rw [NeverStale, split, List.pairwise_cons] at fresh
  rw [split, List.mem_cons] at member
  rcases member with rfl | member
  · exact fun _ _ was _ => was
  · exact fresh.1 after member

/-- All is in order in every state, and in the end every thread but the owner has its own stack,
by induction on the calls.
-/
theorem switchEach_rests {owner : Option ThreadId} {calls : List (Host × Bool)}
    (places : ∀ call ∈ calls, AltStack.Places own call.1) (rests : AtRest own owner process)
    (orderly : OwnerReleases owner calls process)
    : (switchEach calls).Ensures (Intact own)
        (fun _ after => AtRest own (ownerInTheEnd owner calls process) after) process := by
  induction calls generalizing owner process with
  | nil => exact rests
  | cons call rest ih =>
      obtain ⟨host, on⟩ := call
      obtain ⟨first, later⟩ := orderly
      have placed := places (host, on) List.mem_cons_self
      obtain ⟨result, after, ends⟩ := Activation.ends_setSignals host on process
      rw [ends] at later
      have turned := Activation.setSignals_rests placed rests first
      rw [switchEach, ensures_bind]
      refine (turned.and (.of_run ends)).mono (fun _ both => both.1) ?_
      rintro _ _ ⟨settled, rfl, rfl⟩
      rw [ownerInTheEnd, ends]
      exact ih (fun call member => places call (List.mem_cons_of_mem _ member)) settled later

theorem ends_switchEach (calls : List (Host × Bool)) : (switchEach calls).Ends := by
  induction calls with
  | nil => exact .pure _
  | cons call rest ih => exact .bind (Activation.ends_setSignals _ _) fun _ => ih

/-- As soon as anyone but the owner turns the monitor off, a stale stack is registered, by
induction on the calls before that.
-/
theorem orderly_of_neverStale {owner : Option ThreadId} {calls : List (Host × Bool)}
    (places : ∀ call ∈ calls, AltStack.Places own call.1) (rests : AtRest own owner process)
    (fresh : NeverStale ((switchEach calls).states process))
    : OwnerReleases owner calls process := by
  induction calls generalizing owner process with
  | nil => trivial
  | cons call rest ih =>
      obtain ⟨host, on⟩ := call
      have placed := places (host, on) List.mem_cons_self
      obtain ⟨result, after, ends⟩ := Activation.ends_setSignals host on process
      have suffix
          : (switchEach rest).states after
            <:+ (switchEach ((host, on) :: rest)).states process :=
        states_suffix_bind ends fun _ => switchEach rest
      have orderly
          : on = false → ∀ thread, owner = some thread →
              host.thread = thread ∧ host.kernel.registerStack = none := by
        rintro rfl thread rfl
        refine Classical.byContradiction fun disorderly => ?_
        have other : host.thread ≠ thread ∨ host.kernel.registerStack ≠ none :=
          Classical.not_and_iff_not_or_not.mp disorderly
        obtain ⟨stack, was, strands⟩ := Activation.setSignals_strands rests other
        obtain ⟨has, gone⟩ := strands.run_eq ends
        have still := fresh.later (suffix.mem (mem_states_self _ _)) thread stack was has
        rw [gone] at still
        cases still
      refine ⟨orderly, ?_⟩
      rw [ends]
      have settled := (Activation.setSignals_rests placed rests orderly).run_eq ends
      exact ih (fun call member => places call (List.mem_cons_of_mem _ member)) settled
        (fresh.sublist suffix.sublist)

/-- Threads turn the monitor on and off one after the other, from a state in which it is off and
has no stack. No thread ever has a stack registered that was unmapped if and only if the monitor
is always turned off by the thread that turned it on, which has its own stack back then. In that
case every thread has its own stack in the end, except for an owner while the monitor is on.
-/
theorem neverStale_iff_ownerReleases {start : Process} (off : start.enabled.signal = false)
    (unused : start.altStack = none) (unmapped : start.mapped = [])
    (unrecorded : start.previousStack = none)
    (still : ∀ thread, (start.threads thread).onAltStack = false)
    {calls : List (Host × Bool)}
    (places : ∀ call ∈ calls, AltStack.Places start.registered call.1)
    : (NeverStale ((switchEach calls).states start) ↔ OwnerReleases none calls start)
      ∧ (OwnerReleases none calls start
        → ∃ after,
            (switchEach calls).run start = (some (), after)
            ∧ after.enabled.signal = (ownerInTheEnd none calls start).isSome
            ∧ ∀ thread,
                after.registered thread
                  = if ownerInTheEnd none calls start = some thread then after.altStack
                    else start.registered thread) := by
  have rests : AtRest start.registered none start := by
    refine ⟨⟨still, ?_, ?_, fun _ => rfl, unrecorded, nofun⟩, off⟩
    · rw [unmapped, unused]
      rfl
    · rw [unmapped]
      exact fun _ member => absurd member List.not_mem_nil
  refine ⟨⟨orderly_of_neverStale places rests, fun orderly => ?_⟩, fun orderly => ?_⟩
  · have ensures := switchEach_rests places rests orderly
    exact .of_intact fun visited => ensures.mem_states rests.intact
  · obtain ⟨_, after, ends⟩ := ends_switchEach calls start
    have last := (switchEach_rests places rests orderly).run_eq ends
    exact ⟨after, ends, last.flag, last.registered⟩

/-- The plainest surroundings of a second thread. -/
def Host.second : Host :=
  { Host.plain with
    surroundings := { Host.plain.surroundings with currentThread := ⟨2⟩ } }

/-- Two threads have stacks of their own. -/
def Process.twoStacks : Process :=
  { Process.fresh with
    threads := fun thread =>
      if thread = ⟨1⟩ then { altStack := some (.ofNat 0x1000) }
      else if thread = ⟨2⟩ then { altStack := some (.ofNat 0x2000) }
      else {} }

/-- Stacks are mapped at multiples of their distance, where neither of the two stacks is. -/
theorem Process.placement_ne_twoStacks (index : Nat) (thread : ThreadId)
    : twoStacks.registered thread
      ≠ some (Address.ofNat (0x7F0000000000 + 0x20000 * index)) := by
  have apart (number : Nat) (small : number < 0x20000) (positive : 0 < number)
      : Address.ofNat number ≠ .ofNat (0x7F0000000000 + 0x20000 * index) := by
    intro same
    have equal := congrArg Address.toNat same
    simp only [Address.ofNat, Address.toNat, UInt64.toNat_ofNat'] at equal
    omega
  unfold registered twoStacks
  dsimp only
  split
  · exact fun same => apart _ (by decide) (by decide) (Option.some.inj same)
  · split
    · exact fun same => apart _ (by decide) (by decide) (Option.some.inj same)
    · nofun

/-- A thread turns the monitor on and off, and then another one turns it on. -/
theorem neverStale_iff_ownerReleases_of_two_owners
    : OwnerReleases none [(.plain, true), (.plain, false), (.second, true)] .twoStacks
      ∧ NeverStale ((switchEach [(.plain, true), (.plain, false), (.second, true)]).states
          .twoStacks) := by
  have places
      : ∀ call ∈ [(Host.plain, true), (.plain, false), (.second, true)],
          AltStack.Places Process.twoStacks.registered call.1 := by
    intro call member
    simp only [List.mem_cons, List.not_mem_nil, or_false] at member
    rcases member with rfl | rfl | rfl <;> exact Process.placement_ne_twoStacks
  have orderly
      : OwnerReleases none [(.plain, true), (.plain, false), (.second, true)] .twoStacks := by
    refine ⟨nofun, fun _ thread owner => ⟨?_, rfl⟩, nofun, trivial⟩
    have first
        : ownerAfter none .plain ((Activation.setSignals .plain true).run .twoStacks).2
          = some ⟨1⟩ := by
      decide +kernel
    exact Option.some.inj (first.symm.trans owner)
  refine ⟨orderly, (neverStale_iff_ownerReleases rfl rfl rfl rfl ?_ places).1.mpr orderly⟩
  intro thread
  unfold Process.twoStacks
  dsimp only
  split
  · rfl
  · split <;> rfl

/-- The first thread turns the monitor on and the second one turns it off: the second one is
given the stack of the first one, which is left with a stack that is no longer mapped.
-/
theorem second_thread_takes_stack
    : ∃ stack,
        stack ∈ ((switchEach [(.plain, true)]).run .twoStacks).2.mapped
        ∧ ((switchEach [(.plain, true), (.second, false)]).run .twoStacks).1 = some ()
        ∧ ((switchEach [(.plain, true), (.second, false)]).run .twoStacks).2.mapped = []
        ∧ ((switchEach [(.plain, true), (.second, false)]).run .twoStacks).2.registered ⟨1⟩
          = some stack
        ∧ ((switchEach [(.plain, true), (.second, false)]).run .twoStacks).2.registered ⟨2⟩
          = Process.twoStacks.registered ⟨1⟩
        ∧ Process.twoStacks.registered ⟨2⟩ ≠ Process.twoStacks.registered ⟨1⟩ :=
  ⟨.ofNat 0x7F0000000000, by decide +kernel⟩

end CrashCapture
