import ByteMachine.Action

/-!
# Results of failing computations

When a sequence of computations that may fail gives a value: every one of them has to.  Otherwise it
gives the error of the first that fails.

## Main definitions

- `error?` — the error of a computation, if it fails
- `changed?`, `answer` — the state after a computation in place that succeeds, and the result of one
  without the state that it leaves
-/

namespace ByteMachine

variable {ε α β : Type}

theorem bind_eq_ok_iff {x : Except ε α} {f : α → Except ε β} {b : β} :
    (x >>= f) = .ok b ↔ ∃ a, x = .ok a ∧ f a = .ok b := by
  cases x with
  | error e => exact ⟨fun h => (nomatch h), fun ⟨_, h, _⟩ => (nomatch h)⟩
  | ok a => exact ⟨fun h => ⟨a, rfl, h⟩, fun ⟨_, h, hf⟩ => Except.ok.inj h ▸ hf⟩

theorem bind_of_eq_ok {x : Except ε α} {f : α → Except ε β} {a : α} (h : x = .ok a) :
    (x >>= f) = f a := by
  rw [h]
  rfl

theorem bind_of_eq_error {x : Except ε α} {f : α → Except ε β} {e : ε} (h : x = .error e) :
    (x >>= f) = .error e := by
  rw [h]
  rfl

theorem pure_eq_ok_iff {a b : α} : (pure a : Except ε α) = .ok b ↔ a = b :=
  ⟨Except.ok.inj, congrArg _⟩

variable {δ : Type} {f : ε → δ}

@[simp] theorem mapError_ok (a : α) : (Except.ok a).mapError f = .ok a := rfl

@[simp] theorem mapError_error (e : ε) :
    (Except.error e : Except ε α).mapError f = .error (f e) := rfl

theorem mapError_eq_ok_iff {x : Except ε α} {a : α} : x.mapError f = .ok a ↔ x = .ok a := by
  cases x <;> simp

/-- Two sequences whose parts differ in the wording of their errors only do so, too. -/
theorem mapError_bind_congr {x y : Except ε α} {g g' : α → Except ε β}
    (hxy : x.mapError f = y.mapError f) (h : ∀ a, (g a).mapError f = (g' a).mapError f) :
    (x >>= g).mapError f = (y >>= g').mapError f := by
  cases x with
  | error e =>
    cases y with
    | error e' => exact congrArg Except.error (Except.error.inj hxy)
    | ok b => exact nomatch hxy
  | ok a =>
    cases y with
    | error e' => exact nomatch hxy
    | ok b =>
      obtain rfl : a = b := Except.ok.inj hxy
      exact h a

theorem mapError_map {x : Except ε α} {g : α → β} :
    (x.map g).mapError f = (x.mapError f).map g := by
  cases x <;> rfl

theorem map_eq_ok_iff {x : Except ε α} {f : α → β} {b : β} :
    x.map f = .ok b ↔ ∃ a, x = .ok a ∧ f a = b := by
  cases x <;> simp [Except.map]

/-- A value behind a check is there only if the check passes. -/
theorem guard_eq_ok_iff {p : Prop} [Decidable p] {e : ε} {x : Except ε α} {a : α} :
    (if p then .error e else x) = .ok a ↔ ¬p ∧ x = .ok a := by
  by_cases h : p <;> simp [h]

/-- The error of a computation, if it fails. -/
def error? : Except ε α → Option ε
  | .ok _ => none
  | .error e => some e

theorem error?_eq_some_iff {x : Except ε α} {e : ε} : error? x = some e ↔ x = .error e := by
  cases x <;> simp [error?]

theorem error?_eq_none_iff {x : Except ε α} : error? x = none ↔ ∃ a, x = .ok a := by
  cases x <;> simp [error?]

/-- A sequence fails with the error of its first part, and otherwise with that of the rest. -/
theorem error?_bind {x : Except ε α} {f : α → Except ε β} {r : Option ε}
    (h : ∀ a, x = .ok a → error? (f a) = r) : error? (x >>= f) = (error? x).or r := by
  cases x with
  | error e => rfl
  | ok a => exact h a rfl

/-- The state after a computation that has succeeded, or its error. -/
def changed? {σ : Type} : EStateM.Result ε σ α → Except ε σ
  | .ok _ s => .ok s
  | .error e _ => .error e

theorem changed?_eq_ok_iff {σ : Type} {result : EStateM.Result ε σ α} {s : σ} :
    changed? result = .ok s ↔ ∃ a, result = .ok a s := by
  cases result <;> simp [changed?]

/-- The value or the error that a computation gives, whatever state it leaves. -/
def answer {σ : Type} : EStateM.Result ε σ α → Except ε α
  | .ok a _ => .ok a
  | .error e _ => .error e

section MapState

variable {σ τ : Type} (f : σ → τ) (result : EStateM.Result ε σ α)

@[simp]
theorem endState_mapState : endState (mapState f result) = f (endState result) := by
  cases result <;> rfl

@[simp]
theorem answer_mapState : answer (mapState f result) = answer result := by
  cases result <;> rfl

end MapState

end ByteMachine
