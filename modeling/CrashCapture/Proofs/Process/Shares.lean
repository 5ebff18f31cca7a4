import CrashCapture.Proofs.Process.Stepwise
import Mathlib.Algebra.BigOperators.Group.List.Basic
import Mathlib.Logic.Relation

/-! Computations whose steps interleave. Each strand owns a share of what an invariant accounts
for, and each of its steps keeps the invariant at the cost of its own share alone, whatever
the others own. What every strand keeps holds in every state that they reach together.
-/

namespace CrashCapture.Steps

variable {σ τ ρ α β : Type} [AddCommMonoid ρ] {inv : ρ → σ → Prop}

-----------------------------------------------------------------------------------------
-- Owning a share
-----------------------------------------------------------------------------------------

/-- From a share the computation keeps the invariant, wherever the others have taken the state
before each of its steps, and its value comes with what it owns in the end.
-/
def Owns (inv : ρ → σ → Prop) (post : α → ρ → Prop) : Steps σ α → ρ → Prop
  | .done value, share => post value share
  | .step change next, share =>
    ∀ rest state,
      inv (share + rest) state
      → ∃ left, inv (left + rest) (change state) ∧ (next state).Owns inv post left
  | .halted, _ => True

section Rules

variable {share : ρ}

@[simp]
theorem owns_pure {post : α → ρ → Prop} {value : α}
    : (pure value : Steps σ α).Owns inv post share ↔ post value share := Iff.rfl

/-- What a sequence owns goes on from what its first part leaves, by induction along that part.
-/
@[simp]
theorem owns_bind {post : β → ρ → Prop} {first : Steps σ α} {more : α → Steps σ β}
    : (first >>= more).Owns inv post share
      ↔ first.Owns inv (fun value left => (more value).Owns inv post left) share := by
  show (first.bind more).Owns inv post share ↔ _
  induction first generalizing share with
  | done value => exact Iff.rfl
  | step change next ih =>
      constructor
      · intro owns rest state holds
        obtain ⟨left, kept, onward⟩ := owns rest state holds
        exact ⟨left, kept, (ih state).mp onward⟩
      · intro owns rest state holds
        obtain ⟨left, kept, onward⟩ := owns rest state holds
        exact ⟨left, kept, (ih state).mpr onward⟩
  | halted => exact Iff.rfl

/-- Weaker demands on the end are met as well, by induction along the computation. -/
theorem Owns.mono {post looser : α → ρ → Prop} {run : Steps σ α}
    (owns : run.Owns inv post share) (ending : ∀ value left, post value left → looser value left)
    : run.Owns inv looser share := by
  induction run generalizing share with
  | done value => exact ending value share owns
  | step change next ih =>
      intro rest state holds
      obtain ⟨left, kept, onward⟩ := owns rest state holds
      exact ⟨left, kept, ih state onward⟩
  | halted => trivial

/-- What is owned besides stays owned, by induction along the computation: to each step it is
one more share of the others.
-/
theorem Owns.frame {post : α → ρ → Prop} {run : Steps σ α} (owns : run.Owns inv post share)
    (extra : ρ)
    : run.Owns inv (fun value left => ∃ own, post value own ∧ left = own + extra)
        (share + extra) := by
  induction run generalizing share with
  | done value => exact ⟨share, owns, rfl⟩
  | step change next ih =>
      intro rest state holds
      rw [add_assoc] at holds
      obtain ⟨left, kept, onward⟩ := owns (extra + rest) state holds
      exact ⟨left + extra, by rwa [add_assoc], ih state onward⟩
  | halted => trivial

/-- A look at the state may bring a share, when the invariant grants it. -/
theorem owns_ask {post : α → ρ → Prop} {look : σ → α}
    (seen
      : ∀ rest state,
          inv (share + rest) state
          → ∃ left, inv (left + rest) state ∧ post (look state) left)
    : (ask look).Owns inv post share := seen

theorem owns_exchange {post : α → ρ → Prop} {look : σ → α} {change : σ → σ}
    (done
      : ∀ rest state,
          inv (share + rest) state
          → ∃ left, inv (left + rest) (change state) ∧ post (look state) left)
    : (exchange look change).Owns inv post share := done

theorem owns_modify {post : Unit → ρ → Prop} {change : σ → σ}
    (done
      : ∀ rest state,
          inv (share + rest) state → ∃ left, inv (left + rest) (change state) ∧ post () left)
    : (modify change).Owns inv post share := done

/-- A computation that never touches what the invariant is about costs nothing, by induction
along it.
-/
theorem NeverTouches.owns {view : σ → τ} {run : Steps σ α} (never : run.NeverTouches view)
    (about : ∀ share before after, view after = view before → inv share before → inv share after)
    (share : ρ)
    : run.Owns inv (fun _ left => left = share) share := by
  induction run with
  | done value => rfl
  | step change next ih =>
      intro rest state holds
      exact ⟨share, about _ _ _ (never.1 state) holds, ih state (never.2 state)⟩
  | halted => trivial

end Rules

-----------------------------------------------------------------------------------------
-- Owning nothing
-----------------------------------------------------------------------------------------

/-- Owning nothing at first, the computation keeps the invariant. -/
def Safe (inv : ρ → σ → Prop) (run : Steps σ α) : Prop := run.Owns inv (fun _ _ => True) 0

namespace Safe

theorem pure (value : α) : (Pure.pure value : Steps σ α).Safe inv := trivial

theorem of_owns {post : α → ρ → Prop} {run : Steps σ α} (owns : run.Owns inv post 0)
    : run.Safe inv := owns.mono fun _ _ _ => trivial

/-- Whatever is owned, it stays owned along a computation that needs none of it. -/
theorem keeps {run : Steps σ α} (safe : run.Safe inv) (share : ρ)
    : run.Owns inv (fun _ left => ∃ own, left = own + share) share := by
  have framed := safe.frame share
  rw [zero_add] at framed
  exact framed.mono fun _ _ ⟨own, _, same⟩ => ⟨own, same⟩

theorem owns {run : Steps σ α} (safe : run.Safe inv) (share : ρ)
    : run.Owns inv (fun _ _ => True) share := (safe.keeps share).mono fun _ _ _ => trivial

/-- After a part that is safe, what comes owns some share or other. -/
theorem bind_owns {post : β → ρ → Prop} {first : Steps σ α} {more : α → Steps σ β}
    (left : first.Safe inv) (right : ∀ value share, (more value).Owns inv post share) (share : ρ)
    : (first >>= more).Owns inv post share :=
  owns_bind.mpr ((left.owns share).mono fun value left _ => right value left)

/-- What was known of the share and stays true of a greater one is known after the first part. -/
theorem bind_keeping {post : β → ρ → Prop} {first : Steps σ α} {more : α → Steps σ β}
    {held : ρ → Prop} {share : ρ} (grows : ∀ own share, held share → held (own + share))
    (left : first.Safe inv) (holds : held share)
    (right : ∀ value share, held share → (more value).Owns inv post share)
    : (first >>= more).Owns inv post share := by
  refine owns_bind.mpr ((left.keeps share).mono ?_)
  rintro value _ ⟨own, rfl⟩
  exact right value _ (grows own share holds)

/-- What the first part leaves is not needed any more. -/
theorem after {post : α → ρ → Prop} {share : ρ} {first : Steps σ α} {more : α → Steps σ β}
    (left : first.Owns inv post share) (right : ∀ value, (more value).Safe inv)
    : (first >>= more).Owns inv (fun _ _ => True) share :=
  owns_bind.mpr (left.mono fun value left _ => (right value).owns left)

theorem bind {first : Steps σ α} {more : α → Steps σ β} (left : first.Safe inv)
    (right : ∀ value, (more value).Safe inv)
    : (first >>= more).Safe inv := after left right

end Safe

-----------------------------------------------------------------------------------------
-- Strands
-----------------------------------------------------------------------------------------

/-- One of the strands makes its next step. -/
inductive Advances : List (Steps σ Unit) × σ → List (Steps σ Unit) × σ → Prop where
  | step (before after : List (Steps σ Unit)) (change : σ → σ) (next : σ → Steps σ Unit)
      (state : σ)
      : Advances (before ++ .step change next :: after, state)
          (before ++ next state :: after, change state)

/-- The strands get from one state to another in some order of their steps. -/
def Reaches : List (Steps σ Unit) × σ → List (Steps σ Unit) × σ → Prop :=
  Relation.ReflTransGen Advances

/-- The strands own shares which the invariant accounts for together. -/
def Shared (inv : ρ → σ → Prop) (pool : List (Steps σ Unit)) (state : σ) : Prop :=
  ∃ owned : List (Steps σ Unit × ρ),
    owned.map (·.1) = pool
    ∧ (∀ strand ∈ owned, strand.1.Owns inv (fun _ _ => True) strand.2)
    ∧ inv (owned.map (·.2)).sum state

/-- A step of one strand keeps the account, with that strand's share changed. -/
theorem Advances.shared {pool next : List (Steps σ Unit)} {state after : σ}
    (advances : Advances (pool, state) (next, after)) (shared : Shared inv pool state)
    : Shared inv next after := by
  cases advances with
  | step before behind change more state =>
      obtain ⟨owned, strands, own, holds⟩ := shared
      obtain ⟨firsts, others, rfl, rfl, split⟩ := List.map_eq_append_iff.mp strands
      obtain ⟨⟨_, share⟩, lasts, rfl, rfl, rfl⟩ := List.map_eq_cons_iff.mp split
      have total (share : ρ) (strand : Steps σ Unit)
          : ((firsts ++ (strand, share) :: lasts).map (·.2)).sum
            = share + ((firsts.map (·.2)).sum + (lasts.map (·.2)).sum) := by
        rw [List.map_append, List.sum_append, List.map_cons, List.sum_cons, add_left_comm]
      rw [total] at holds
      have owns : (Steps.step change more).Owns inv (fun _ _ => True) share :=
        own (.step change more, share) (by simp)
      obtain ⟨left, kept, onward⟩ := owns _ state holds
      refine ⟨firsts ++ (more state, left) :: lasts, by simp, ?_, by rwa [total]⟩
      intro strand member
      rcases List.mem_append.mp member with first | later
      · exact own strand (List.mem_append_left _ first)
      · rcases List.mem_cons.mp later with rfl | last
        · exact onward
        · exact own strand (List.mem_append_right _ (List.mem_cons_of_mem _ last))

/-- Strands that own nothing at first keep the invariant together, by induction on their steps.
-/
theorem Reaches.keeps {pool next : List (Steps σ Unit)} {start after : σ}
    (reaches : Reaches (pool, start) (next, after)) (safe : ∀ strand ∈ pool, strand.Safe inv)
    (holds : inv 0 start)
    : ∃ total, inv total after := by
  have shared : Shared inv pool start := by
    refine ⟨pool.map fun strand => (strand, 0), by simp [Function.comp_def], ?_, ?_⟩
    · intro strand member
      obtain ⟨strand, among, rfl⟩ := List.mem_map.mp member
      exact safe strand among
    · rw [List.map_map, List.sum_eq_zero (by simp)]
      exact holds
  have along : ∀ reached : List (Steps σ Unit) × σ,
      Relation.ReflTransGen Advances (pool, start) reached → Shared inv reached.1 reached.2 := by
    intro reached path
    induction path with
    | refl => exact shared
    | tail _ advances ih => exact advances.shared ih
  obtain ⟨owned, _, _, account⟩ := along _ reaches
  exact ⟨_, account⟩

/-- A strand alone may come to its end while the others wait, by induction along it. -/
theorem reaches_run (before after : List (Steps σ Unit)) (run : Steps σ Unit) (state : σ)
    : ∃ ended,
        Reaches (before ++ run :: after, state)
          (before ++ ended :: after, (run.run state).2) := by
  induction run generalizing state with
  | done value => exact ⟨.done value, .refl⟩
  | step change next ih =>
      obtain ⟨ended, onward⟩ := ih state (change state)
      exact ⟨ended, .head (.step before after change next state) onward⟩
  | halted => exact ⟨.halted, .refl⟩

end CrashCapture.Steps
