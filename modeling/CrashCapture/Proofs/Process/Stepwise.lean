import CrashCapture.Proofs.Process.Ensures

/-! What no step of a computation touches, whatever it finds. Between two steps others may
change the state, so that a fact about a run that is left alone says nothing; here every step
that can ever come is judged by itself.
-/

namespace CrashCapture.Steps

variable {σ τ α β : Type}

/-- No step that the computation can ever make changes what `view` shows of the state that it
is made in.
-/
def NeverTouches (view : σ → τ) : Steps σ α → Prop
  | .done _ => True
  | .step change next =>
    (∀ state, view (change state) = view state) ∧ ∀ found, (next found).NeverTouches view
  | .halted => True

namespace NeverTouches

variable {view : σ → τ}

/-- A value takes no step. -/
theorem pure (value : α) : (Pure.pure value : Steps σ α).NeverTouches view := trivial

/-- A look touches nothing. -/
theorem ask (look : σ → α) : (Steps.ask look).NeverTouches view :=
  ⟨fun _ => rfl, fun _ => trivial⟩

/-- A change that does not show anywhere touches nothing of the view. -/
theorem modify {change : σ → σ} (same : ∀ state, view (change state) = view state)
    : (Steps.modify change).NeverTouches view := ⟨same, fun _ => trivial⟩

/-- An exchange whose change does not show anywhere touches nothing of the view. -/
theorem exchange {look : σ → α} {change : σ → σ}
    (same : ∀ state, view (change state) = view state)
    : (Steps.exchange look change).NeverTouches view := ⟨same, fun _ => trivial⟩

/-- By induction along the first part, which the second one goes on from. -/
theorem bind {first : Steps σ α} {more : α → Steps σ β} (left : first.NeverTouches view)
    (right : ∀ value, (more value).NeverTouches view)
    : (first >>= more).NeverTouches view := by
  show (first.bind more).NeverTouches view
  induction first with
  | done value => exact right value
  | step change next ih => exact ⟨left.1, fun found => ih found (left.2 found)⟩
  | halted => trivial

/-- A part of what is never touched is never touched, by induction along the computation. -/
theorem comp {υ : Type} {run : Steps σ α} (never : run.NeverTouches view) (part : τ → υ)
    : run.NeverTouches (fun state => part (view state)) := by
  induction run with
  | done value => trivial
  | step change next ih =>
      exact ⟨fun state => congrArg part (never.1 state), fun found => ih found (never.2 found)⟩
  | halted => trivial

/-- What is never touched is left alone by a run without others in between, by induction along
the run.
-/
theorem leaves {run : Steps σ α} (never : run.NeverTouches view) : run.Leaves view := by
  intro state
  suffices along : ∀ now, view now = view state →
      run.Ensures (fun after => view after = view state) (fun _ after => view after = view state)
        now from
    along state rfl
  induction run with
  | done value => exact fun _ same => same
  | step change next ih =>
      intro now same
      have still := (never.1 now).trans same
      exact ⟨still, ih now (never.2 now) (change now) still⟩
  | halted => exact fun _ _ => trivial

end NeverTouches

end CrashCapture.Steps
