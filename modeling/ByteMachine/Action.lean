/-!
# Actions in place

Registers, memory, the machine and a session are changed in place.  An action on one of them may
fail, and a failing one leaves behind whatever it has done so far.  So whether a failure is without
a trace depends on the actions and their order, and is never a matter of their type.

## Main definitions

- `inspect` — a look at a state
- `onPart` — an action on a part of a state, as an action on the whole
- `endState`, `mapState` — the state that an action leaves, and the same result with another state
-/

namespace ByteMachine

variable {ε ε' σ τ α β : Type}

/-- A look at the state, which may fail. -/
def inspect (look : σ → Except ε α) : EStateM ε σ α := fun s =>
  match look s with
  | .ok a => .ok a s
  | .error e => .error e s

/-- An action on a part of the state.  Whatever it leaves of the part is there afterwards, also if
it has failed. -/
def onPart (part : σ → τ) (replace : σ → τ → σ) (wrap : ε → ε') (action : EStateM ε τ α) :
    EStateM ε' σ α := fun s =>
  match action (part s) with
  | .ok a t => .ok a (replace s t)
  | .error e t => .error (wrap e) (replace s t)

section OnPart

variable {part : σ → τ} {replace : σ → τ → σ} {wrap : ε → ε'}

theorem onPart_bind (hreplaced : ∀ s t, part (replace s t) = t)
    (hlast : ∀ s t u, replace (replace s t) u = replace s u) (x : EStateM ε τ α)
    (f : α → EStateM ε τ β) :
    onPart part replace wrap (x >>= f) =
      onPart part replace wrap x >>= fun a => onPart part replace wrap (f a) := by
  funext s
  show onPart part replace wrap (EStateM.bind x f) s =
    EStateM.bind (onPart part replace wrap x) _ s
  simp only [onPart, EStateM.bind]
  cases x (part s) with
  | error e t => rfl
  | ok a t =>
    dsimp only
    rw [hreplaced]
    cases f a t <;> simp only [hlast]

/-- A look at a part of the state leaves all of it alone. -/
theorem onPart_inspect (hsame : ∀ s, replace s (part s) = s) (look : τ → Except ε α) :
    onPart part replace wrap (inspect look) =
      inspect fun s => (look (part s)).mapError wrap := by
  funext s
  simp only [onPart, inspect]
  cases look (part s) with
  | error e => exact congrArg (EStateM.Result.error (wrap e)) (hsame s)
  | ok a => exact congrArg (EStateM.Result.ok a) (hsame s)

end OnPart

/-- The state that an action leaves, whether it has failed or not. -/
def endState : EStateM.Result ε σ α → σ
  | .ok _ s | .error _ s => s

/-- The same result with another state. -/
def mapState (f : σ → τ) : EStateM.Result ε σ α → EStateM.Result ε τ α
  | .ok a s => .ok a (f s)
  | .error e s => .error e (f s)

end ByteMachine
