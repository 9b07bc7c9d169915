/-!
# Checks in Sequence

What the caller hands over is accepted by checks one after the other. The first one that
fails decides which fault is reported.

## Main results

* `check_eq_ok_iff`, `check_eq_error_iff` — a check passes exactly if its condition holds,
  and otherwise reports its fault;
* `bind_eq_ok_iff`, `bind_eq_error_iff` — two steps succeed exactly if both do, and fail
  with the fault of the first that does not;
* `mapError_ok`, `mapError_error` — renaming faults leaves results alone.
-/

namespace Ev2Reader

variable {ε α β : Type}

/-- Passes if a condition holds, and otherwise reports a fault. -/
def check (p : Prop) [Decidable p] (e : ε) : Except ε Unit :=
  if p then .ok () else .error e

/-- A check passes exactly if its condition holds. -/
@[simp] theorem check_eq_ok_iff {p : Prop} [Decidable p] {e : ε} {u : Unit} :
    check p e = .ok u ↔ p := by
  by_cases hp : p <;> simp [check, hp]

/-- A check fails exactly if its condition does not hold, and reports its fault. -/
@[simp] theorem check_eq_error_iff {p : Prop} [Decidable p] {e e' : ε} :
    check p e = .error e' ↔ ¬ p ∧ e' = e := by
  by_cases hp : p <;> simp [check, hp, eq_comm]

/-- Two steps succeed exactly if the first does and the second does on its result. -/
theorem bind_eq_ok_iff {x : Except ε α} {f : α → Except ε β} {b : β} :
    (x >>= f) = .ok b ↔ ∃ a, x = .ok a ∧ f a = .ok b := by
  cases x <;> simp [bind, Except.bind]

/-- Two steps fail exactly if the first does, or the second does on its result. -/
theorem bind_eq_error_iff {x : Except ε α} {f : α → Except ε β} {e : ε} :
    (x >>= f) = .error e ↔ x = .error e ∨ ∃ a, x = .ok a ∧ f a = .error e := by
  cases x <;> simp [bind, Except.bind]

/-- A result has no fault to rename. -/
@[simp] theorem mapError_ok {ε' : Type} (f : ε → ε') (a : α) :
    (Except.ok a : Except ε α).mapError f = .ok a := rfl

/-- A fault is renamed. -/
@[simp] theorem mapError_error {ε' : Type} (f : ε → ε') (e : ε) :
    (Except.error e : Except ε α).mapError f = .error (f e) := rfl

end Ev2Reader
