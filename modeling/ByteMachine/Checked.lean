/-!
# Checked access

Addresses are natural numbers in this library, and a part of a list ends where the list ends.  A
machine that keeps its numbers in words of 64 bits, and must find every part of a list where it
looks for it, can fail at both.  The operations here do what such a machine does, and have no result
where it would fail, so that a computation with them has a result only if it is safe.

## Main definitions

- `Checked.sum?` — a sum that must fit a word
- `Checked.cappedSum`, `Checked.cappedShift` — a sum that is cut off where it leaves the words
- `Checked.slice?`, `Checked.replace?` — a part of a list, and a list with a part replaced
-/

namespace ByteMachine.Checked

variable {α β : Type}

/-- The sum of two numbers, which must fit a word. -/
def sum? (a b : Nat) : Option Nat :=
  if a + b < UInt64.size then some (a + b) else none

/-- The sum of two numbers, or the largest number that fits a word. -/
def cappedSum (a b : Nat) : Nat :=
  min (a + b) (UInt64.size - 1)

/-- A number moved up or down, as far as the words go. -/
def cappedShift (a : Nat) (b : Int) : Nat :=
  min (a + b).toNat (UInt64.size - 1)

/-- The elements from the index `start` on and before `stop`, which must lie within the list in this
order. -/
def slice? (xs : List α) (start stop : Nat) : Option (List α) :=
  if start ≤ stop ∧ stop ≤ xs.length then some ((xs.take stop).drop start) else none

/-- The list with other elements in place of a slice, which must be as many. -/
def replace? (xs : List α) (start stop : Nat) (ys : List α) : Option (List α) :=
  if start ≤ stop ∧ stop ≤ xs.length ∧ ys.length = stop - start then
    some (xs.take start ++ ys ++ xs.drop stop)
  else none

theorem sum?_of_lt {a b : Nat} (h : a + b < UInt64.size) : sum? a b = some (a + b) :=
  if_pos h

/-- Below a bound that fits a word, a sum is the same whether it is cut off or not. -/
theorem min_cappedSum {a b bound : Nat} (h : bound < UInt64.size) :
    min (cappedSum a b) bound = min (a + b) bound := by
  rw [cappedSum]
  omega

theorem min_cappedShift {a bound : Nat} {b : Int} (h : bound < UInt64.size) :
    min (cappedShift a b) bound = min (a + b).toNat bound := by
  rw [cappedShift]
  omega

theorem slice?_of_le {xs : List α} {start stop : Nat} (hstart : start ≤ stop)
    (hstop : stop ≤ xs.length) : slice? xs start stop = some ((xs.take stop).drop start) :=
  if_pos ⟨hstart, hstop⟩

theorem replace?_of_lt {xs ys : List α} {start stop : Nat} (h : xs.length < stop) :
    replace? xs start stop ys = none :=
  if_neg fun hbounds => absurd hbounds.2.1 (Nat.not_le.2 h)

theorem replace?_of_le {xs ys : List α} {start : Nat} (h : start + ys.length ≤ xs.length) :
    replace? xs start (start + ys.length) ys =
      some (xs.take start ++ ys ++ xs.drop (start + ys.length)) :=
  if_pos ⟨Nat.le_add_right _ _, h, (Nat.add_sub_cancel_left ..).symm⟩

/-- Accesses that all succeed. -/
theorem mapM_eq_some {f : α → Option β} {g : α → β} {xs : List α}
    (h : ∀ x ∈ xs, f x = some (g x)) : xs.mapM f = some (xs.map g) := by
  induction xs with
  | nil => rfl
  | cons x xs ih =>
    rw [List.mapM_cons, h x List.mem_cons_self, ih fun y hy => h y (List.mem_cons_of_mem _ hy)]
    rfl

end ByteMachine.Checked
