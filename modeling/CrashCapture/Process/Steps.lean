/-! Computations made of atomic steps on a shared state. Between two steps other threads, or
a signal handler on the same thread, may run; nothing comes between the parts of one step.
A computation can end without a value, when the process that it belongs to ends.
-/

namespace CrashCapture

/-- What is left to do. A step changes the state, and what comes next may look at the state
that the step found. -/
inductive Steps (σ α : Type) where
  | done (value : α)
  | step (change : σ → σ) (next : σ → Steps σ α)
  | halted

namespace Steps

variable {σ α β : Type}

def bind : Steps σ α → (α → Steps σ β) → Steps σ β
  | .done value, more => more value
  | .step change next, more => .step change fun found => (next found).bind more
  | .halted, _ => .halted

instance : Monad (Steps σ) where
  pure := .done
  bind := bind

/-- Does all steps, one directly after the other. -/
def run : Steps σ α → σ → Option α × σ
  | .done value, state => (some value, state)
  | .step change next, state => (next state).run (change state)
  | .halted, state => (none, state)

/-- Computations one after the other may be put together in any way. -/
theorem bind_assoc {γ : Type} (first : Steps σ α) (second : α → Steps σ β)
    (third : β → Steps σ γ)
    : first >>= second >>= third = first >>= fun value => second value >>= third := by
  show (first.bind second).bind third = first.bind fun value => (second value).bind third
  induction first with
  | done value => rfl
  | step change next ih => exact congrArg (step change) (funext ih)
  | halted => rfl

/-- Looks at the state. -/
def ask (look : σ → α) : Steps σ α := .step id fun found => .done (look found)

def modify (change : σ → σ) : Steps σ Unit := .step change fun _ => .done ()

/-- Looks at the state and changes it, in one step. -/
def exchange (look : σ → α) (change : σ → σ) : Steps σ α :=
  .step change fun found => .done (look found)

@[simp]
theorem run_pure (value : α) (state : σ)
    : (pure value : Steps σ α).run state = (some value, state) := rfl

@[simp]
theorem run_ask (look : σ → α) (state : σ)
    : (ask look).run state = (some (look state), state) := rfl

@[simp]
theorem run_modify (change : σ → σ) (state : σ)
    : (modify change).run state = (some (), change state) := rfl

@[simp]
theorem run_exchange (look : σ → α) (change : σ → σ) (state : σ)
    : (exchange look change).run state = (some (look state), change state) := rfl

/-- The second computation starts where the first one ended, unless that one was halted. -/
theorem run_bind (first : Steps σ α) (more : α → Steps σ β) (state : σ)
    : (first >>= more).run state
      = match first.run state with
        | (some value, after) => (more value).run after
        | (none, after) => (none, after) := by
  show (first.bind more).run state = _
  induction first generalizing state with
  | done value => rfl
  | step change next ih => exact ih state (change state)
  | halted => rfl

end Steps

end CrashCapture
