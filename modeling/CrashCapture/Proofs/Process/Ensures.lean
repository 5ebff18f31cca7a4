import CrashCapture.Process.Steps

/-! What holds all along a run. A computation of atomic steps is judged by the states that it
goes through and by what it ends with; a run that is halted has no end, only states. Facts
about parts compose into facts about the whole along `bind`.
-/

namespace CrashCapture.Steps

variable {σ τ α β : Type}

-----------------------------------------------------------------------------------------
-- States of a run and what they satisfy
-----------------------------------------------------------------------------------------

/-- The states of a run in their order, from the one it starts in. -/
def states : Steps σ α → σ → List σ
  | .done _, state => [state]
  | .step change next, state => state :: (next state).states (change state)
  | .halted, state => [state]

/-- Every step leads to a state that satisfies `always`, and the value that the run ends with,
if it does, satisfies `post` together with the state then.
-/
def Ensures (always : σ → Prop) (post : α → σ → Prop) : Steps σ α → σ → Prop
  | .done value, state => post value state
  | .step change next, state =>
    always (change state) ∧ (next state).Ensures always post (change state)
  | .halted, _ => True

section Rules

variable {always : σ → Prop} {state : σ}

/-- A computation that is done ensures what holds there and then. -/
@[simp]
theorem ensures_pure {post : α → σ → Prop} {value : α}
    : (pure value : Steps σ α).Ensures always post state ↔ post value state := Iff.rfl

/-- A look leaves the state as it is, and goes on from what was seen. -/
@[simp]
theorem ensures_ask {post : α → σ → Prop} {look : σ → α}
    : (ask look).Ensures always post state ↔ always state ∧ post (look state) state :=
  Iff.rfl

/-- A change is judged by the state that it leads to. -/
@[simp]
theorem ensures_modify {post : Unit → σ → Prop} {change : σ → σ}
    : (modify change).Ensures always post state
      ↔ always (change state) ∧ post () (change state) := Iff.rfl

/-- An exchange is judged by the state that it leads to and by what was seen before. -/
@[simp]
theorem ensures_exchange {post : α → σ → Prop} {look : σ → α} {change : σ → σ}
    : (exchange look change).Ensures always post state
      ↔ always (change state) ∧ post (look state) (change state) := Iff.rfl

/-- What a sequence ensures, its first part ensures with the second part's obligation as its
end. Witness: induction along the first part, which the second one replaces the end of.
-/
@[simp]
theorem ensures_bind {post : β → σ → Prop} {first : Steps σ α} {more : α → Steps σ β}
    : (first >>= more).Ensures always post state
      ↔ first.Ensures always (fun value after => (more value).Ensures always post after)
          state := by
  show (first.bind more).Ensures always post state ↔ _
  induction first generalizing state with
  | done value => exact Iff.rfl
  | step change next ih => exact and_congr_right fun _ => ih state
  | halted => exact Iff.rfl

/-- Weaker demands are met as well, by induction along the run. -/
theorem Ensures.mono {weaker : σ → Prop} {post looser : α → σ → Prop} {run : Steps σ α}
    (ensures : run.Ensures always post state) (along : ∀ state, always state → weaker state)
    (ending : ∀ value state, post value state → looser value state)
    : run.Ensures weaker looser state := by
  induction run generalizing state with
  | done value => exact ending value state ensures
  | step change next ih => exact ⟨along _ ensures.1, ih state ensures.2⟩
  | halted => trivial

/-- Two facts about one run hold together, by induction along the run. -/
theorem Ensures.and {other : σ → Prop} {post also : α → σ → Prop} {run : Steps σ α}
    (left : run.Ensures always post state) (right : run.Ensures other also state)
    : run.Ensures (fun state => always state ∧ other state)
        (fun value state => post value state ∧ also value state) state := by
  induction run generalizing state with
  | done value => exact ⟨left, right⟩
  | step change next ih => exact ⟨⟨left.1, right.1⟩, ih state left.2 right.2⟩
  | halted => trivial

/-- A run that ends does so as ensured, by induction along the run. -/
theorem Ensures.run_eq {post : α → σ → Prop} {run : Steps σ α}
    (ensures : run.Ensures always post state) {value : α} {after : σ}
    (ends : run.run state = (some value, after))
    : post value after := by
  induction run generalizing state with
  | done result =>
      obtain ⟨rfl, rfl⟩ : result = value ∧ state = after := by
        simpa [Steps.run] using ends
      exact ensures
  | step change next ih => exact ih state ensures.2 ends
  | halted => simp [Steps.run] at ends

/-- A run ends in no other way than it does, by induction along the run. -/
theorem Ensures.of_run {run : Steps σ α} {value : α} {after : σ}
    (ends : run.run state = (some value, after))
    : run.Ensures (fun _ => True) (fun result final => result = value ∧ final = after)
        state := by
  induction run generalizing state with
  | done result =>
      show result = value ∧ state = after
      simpa [Steps.run] using ends
  | step change next ih => exact ⟨trivial, ih state ends⟩
  | halted => trivial

/-- All states of a run are as ensured when the first one is, by induction along the run. -/
theorem Ensures.mem_states {post : α → σ → Prop} {run : Steps σ α}
    (ensures : run.Ensures always post state) (start : always state) {visited : σ}
    (member : visited ∈ run.states state)
    : always visited := by
  induction run generalizing state with
  | done value =>
      rw [states, List.mem_singleton] at member
      exact member ▸ start
  | step change next ih =>
      rw [states, List.mem_cons] at member
      rcases member with first | later
      · exact first ▸ start
      · exact ih state ensures.2 ensures.1 later
  | halted =>
      rw [states, List.mem_singleton] at member
      exact member ▸ start

end Rules

/-- The state that a run starts in is one of its states. -/
theorem mem_states_self (run : Steps σ α) (state : σ) : state ∈ run.states state := by
  cases run <;> simp [states]

/-- A sequence ends with the states of its second part, from where the first part ended, by
induction along the first part.
-/
theorem states_suffix_bind {first : Steps σ α} {state after : σ} {value : α}
    (ends : first.run state = (some value, after)) (more : α → Steps σ β)
    : (more value).states after <:+ (first >>= more).states state := by
  show _ <:+ (first.bind more).states state
  induction first generalizing state with
  | done result =>
      obtain ⟨rfl, rfl⟩ : result = value ∧ state = after := by
        simpa [Steps.run] using ends
      exact List.suffix_rfl
  | step change next ih => exact (ih state ends).trans (List.suffix_cons _ _)
  | halted => simp [Steps.run] at ends

-----------------------------------------------------------------------------------------
-- Coming to an end
-----------------------------------------------------------------------------------------

/-- Wherever it starts, the computation ends with a value. -/
def Ends (run : Steps σ α) : Prop := ∀ state, ∃ value after, run.run state = (some value, after)

namespace Ends

/-- A value that is there is an end. -/
theorem pure (value : α) : (Pure.pure value : Steps σ α).Ends := fun state =>
  ⟨value, state, rfl⟩

/-- A single exchange ends. -/
theorem exchange (look : σ → α) (change : σ → σ) : (Steps.exchange look change).Ends :=
  fun state => ⟨look state, change state, rfl⟩

/-- A single change ends. -/
theorem modify (change : σ → σ) : (Steps.modify change).Ends := fun state =>
  ⟨(), change state, rfl⟩

/-- A sequence ends when both parts do, wherever the first one leads to. -/
theorem bind {first : Steps σ α} {more : α → Steps σ β} (left : first.Ends)
    (right : ∀ value, (more value).Ends)
    : (first >>= more).Ends := by
  intro state
  obtain ⟨value, between, ends⟩ := left state
  obtain ⟨result, after, last⟩ := right value between
  exact ⟨result, after, by rw [run_bind, ends]; exact last⟩

end Ends

-----------------------------------------------------------------------------------------
-- Changing the state in certain ways only
-----------------------------------------------------------------------------------------

/-- Every state of the computation, and the one it ends in, is related to its first state. -/
def Respects (relation : σ → σ → Prop) (run : Steps σ α) : Prop :=
  ∀ state, run.Ensures (relation state) (fun _ => relation state) state

/-- Along a sequence, what two parts respect carries over when it is transitive. -/
theorem Respects.bind {relation : σ → σ → Prop} {first : Steps σ α}
    {more : α → Steps σ β}
    (trans : ∀ {a b c}, relation a b → relation b c → relation a c)
    (left : first.Respects relation) (right : ∀ value, (more value).Respects relation)
    : (first >>= more).Respects relation := by
  intro state
  rw [ensures_bind]
  refine (left state).mono (fun _ related => related) fun value between related => ?_
  exact (right value between).mono (fun _ further => trans related further)
    fun _ _ further => trans related further

/-- No step of the computation changes what `view` shows of the state. -/
def Leaves (view : σ → τ) (run : Steps σ α) : Prop :=
  run.Respects fun before after => view after = view before

namespace Leaves

variable {view : σ → τ}

/-- A value changes nothing. -/
theorem pure (value : α) : (Pure.pure value : Steps σ α).Leaves view := fun _ => rfl

/-- A look changes nothing. -/
theorem ask (look : σ → α) : (Steps.ask look).Leaves view := fun _ => ⟨rfl, rfl⟩

/-- A change that does not show leaves the view alone. -/
theorem modify {change : σ → σ} (same : ∀ state, view (change state) = view state)
    : (Steps.modify change).Leaves view := fun state => ⟨same state, same state⟩

/-- An exchange that does not show leaves the view alone. -/
theorem exchange {look : σ → α} {change : σ → σ}
    (same : ∀ state, view (change state) = view state)
    : (Steps.exchange look change).Leaves view := fun state => ⟨same state, same state⟩

/-- A sequence leaves alone what both parts do. -/
theorem bind {first : Steps σ α} {more : α → Steps σ β} (left : first.Leaves view)
    (right : ∀ value, (more value).Leaves view)
    : (first >>= more).Leaves view :=
  Respects.bind (fun first second => second.trans first) left right

/-- What leaves two things alone leaves both alone. -/
theorem prod {υ : Type} {other : σ → υ} {run : Steps σ α} (left : run.Leaves view)
    (right : run.Leaves other)
    : run.Leaves fun state => (view state, other state) := fun state =>
  ((left state).and (right state)).mono (fun _ both => Prod.ext both.1 both.2)
    fun _ _ both => Prod.ext both.1 both.2

/-- A part of what is left alone is left alone. -/
theorem comp {υ : Type} {run : Steps σ α} (leaves : run.Leaves view) (part : τ → υ)
    : run.Leaves (fun state => part (view state)) := fun state =>
  (leaves state).mono (fun _ same => congrArg part same) fun _ _ same => congrArg part same

end Leaves

-----------------------------------------------------------------------------------------
-- Keeping an invariant
-----------------------------------------------------------------------------------------

/-- From states of the first kind the computation goes through states that satisfy `always`, and
it ends in one of the second kind.
-/
def Leads (always before after : σ → Prop) (run : Steps σ α) : Prop :=
  ∀ state, before state → run.Ensures always (fun _ => after) state

/-- One part leads on from where the other one led to. -/
theorem Leads.bind {always before between after : σ → Prop} {first : Steps σ α}
    {more : α → Steps σ β} (left : first.Leads always before between)
    (right : ∀ value, (more value).Leads always between after)
    : (first >>= more).Leads always before after := by
  intro state holds
  rw [ensures_bind]
  exact (left state holds).mono (fun _ fine => fine) fun value after => right value after

/-- The computation leads from the invariant to the invariant. -/
def Maintains (always inv : σ → Prop) (run : Steps σ α) : Prop := run.Leads always inv inv

namespace Maintains

variable {always inv : σ → Prop}

/-- A value keeps every invariant. -/
theorem pure (value : α) : (Pure.pure value : Steps σ α).Maintains always inv :=
  fun _ holds => holds

/-- A look keeps an invariant that implies what always holds. -/
theorem ask (implied : ∀ state, inv state → always state) (look : σ → α)
    : (Steps.ask look).Maintains always inv := fun state holds =>
  ⟨implied state holds, holds⟩

/-- A change keeps the invariant that it carries over. -/
theorem modify (implied : ∀ state, inv state → always state) {change : σ → σ}
    (kept : ∀ state, inv state → inv (change state))
    : (Steps.modify change).Maintains always inv := fun state holds =>
  ⟨implied _ (kept state holds), kept state holds⟩

/-- An exchange keeps the invariant that its change carries over. -/
theorem exchange (implied : ∀ state, inv state → always state) {look : σ → α}
    {change : σ → σ} (kept : ∀ state, inv state → inv (change state))
    : (Steps.exchange look change).Maintains always inv := fun state holds =>
  ⟨implied _ (kept state holds), kept state holds⟩

/-- A sequence keeps what both parts keep. -/
theorem bind {first : Steps σ α} {more : α → Steps σ β}
    (left : first.Maintains always inv) (right : ∀ value, (more value).Maintains always inv)
    : (first >>= more).Maintains always inv := Leads.bind left right

/-- A sequence whose first part ends well in this run. -/
theorem ensures_bind {first : Steps σ α} {more : α → Steps σ β} {state : σ}
    (left : first.Ensures always (fun _ => inv) state)
    (right : ∀ value, (more value).Maintains always inv)
    : (first >>= more).Ensures always (fun _ => inv) state := by
  rw [Steps.ensures_bind]
  exact left.mono (fun _ same => same) fun value after => right value after

/-- What comes after a look at the state starts in the state that was seen. -/
theorem ask_bind (implied : ∀ state, inv state → always state) {look : σ → α}
    {more : α → Steps σ β}
    (seen
      : ∀ state, inv state → (more (look state)).Ensures always (fun _ => inv) state)
    : (Steps.ask look >>= more).Maintains always inv := by
  intro state holds
  rw [Steps.ensures_bind, ensures_ask]
  exact ⟨implied state holds, seen state holds⟩

/-- What changes the state only in ways that an invariant stands keeps it. -/
theorem of_respects {relation : σ → σ → Prop} {run : Steps σ α}
    (implied : ∀ state, inv state → always state)
    (stands : ∀ {before after}, relation before after → inv before → inv after)
    (respects : run.Respects relation)
    : run.Maintains always inv := fun state holds =>
  (respects state).mono (fun _ related => implied _ (stands related holds))
    fun _ _ related => stands related holds

/-- What leaves alone all that an invariant is about keeps it. -/
theorem of_leaves {view : σ → τ} {run : Steps σ α}
    (implied : ∀ state, inv state → always state)
    (about : ∀ {before after}, view after = view before → inv before → inv after)
    (leaves : run.Leaves view)
    : run.Maintains always inv := of_respects implied about leaves

end Maintains

end CrashCapture.Steps
