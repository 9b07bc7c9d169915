/-!
# Procedures

A procedure works on a state, leaves events behind in order and ends in a result or a
fault. A fault keeps the state and the events that were reached before it, so what a failed
procedure did can still be seen.

## Main results

* `run_bind_of_ok`, `run_bind_of_error` — two procedures in sequence go on from the state of
  the first, with their events one after the other, unless the first fails;
* procedures form a lawful monad.
-/

namespace Ev2Reader

/-- What a procedure ends with: its result or fault, the state it left, and its events,
the oldest first. -/
structure Outcome (σ ω ε α : Type) where
  /-- The result, or the fault that ended the procedure. -/
  result : Except ε α
  /-- The state that was left. -/
  state : σ
  /-- The events on the way. -/
  events : List ω

/-- A **procedure** on states `σ` with events `ω`, faults `ε` and results `α`. -/
structure Procedure (σ ω ε α : Type) where
  /-- Runs the procedure from a state. -/
  run : σ → Outcome σ ω ε α

namespace Procedure

variable {σ ω ε α β γ : Type}

/-- Equal runs make equal procedures. -/
@[ext] theorem ext {p q : Procedure σ ω ε α} (h : ∀ s, p.run s = q.run s) : p = q := by
  cases p
  cases q
  congr
  exact funext h

/-- Goes on after an outcome that is not a fault. -/
def andThen (o : Outcome σ ω ε α) (f : α → Procedure σ ω ε β) : Outcome σ ω ε β :=
  match o with
  | ⟨.ok a, s, events⟩ =>
    let o' := (f a).run s
    ⟨o'.result, o'.state, events ++ o'.events⟩
  | ⟨.error e, s, events⟩ => ⟨.error e, s, events⟩

/-- Procedures run one after the other. A fault ends them, and keeps the state and what was recorded
so far. -/
instance : Monad (Procedure σ ω ε) where
  pure a := ⟨fun s => ⟨.ok a, s, []⟩⟩
  bind p f := ⟨fun s => andThen (p.run s) f⟩

/-- A procedure reads and sets the state on which it runs. -/
instance : MonadStateOf σ (Procedure σ ω ε) where
  get := ⟨fun s => ⟨.ok s, s, []⟩⟩
  set s := ⟨fun _ => ⟨.ok (), s, []⟩⟩
  modifyGet f := ⟨fun s => ⟨.ok (f s).1, (f s).2, []⟩⟩

/-- Ends with a fault. -/
def fail (e : ε) : Procedure σ ω ε α :=
  ⟨fun s => ⟨.error e, s, []⟩⟩

/-- Leaves an event behind. -/
def record (w : ω) : Procedure σ ω ε Unit :=
  ⟨fun s => ⟨.ok (), s, [w]⟩⟩

/-- Ends with a result or a fault that is already there. -/
def ofExcept (x : Except ε α) : Procedure σ ω ε α :=
  ⟨fun s => ⟨x, s, []⟩⟩

/-- Turns a fault into a result, so that what follows can look at it. -/
def attempt (p : Procedure σ ω ε α) : Procedure σ ω ε (Except ε α) :=
  ⟨fun s => ⟨.ok (p.run s).result, (p.run s).state, (p.run s).events⟩⟩

/-! ### Runs of the operations -/

/-- A result that is already there does nothing. -/
@[simp] theorem run_pure (a : α) (s : σ) :
    (pure a : Procedure σ ω ε α).run s = ⟨.ok a, s, []⟩ := rfl

/-- Two procedures run one after the other. -/
@[simp] theorem run_bind (p : Procedure σ ω ε α) (f : α → Procedure σ ω ε β) (s : σ) :
    (p >>= f).run s = andThen (p.run s) f := rfl

/-- A function is applied to the result. -/
@[simp] theorem run_map (f : α → β) (p : Procedure σ ω ε α) (s : σ) :
    (f <$> p).run s = andThen (p.run s) fun a => pure (f a) := rfl

/-- **After a result the second procedure goes on** from the state that was left. -/
theorem run_bind_of_ok {p : Procedure σ ω ε α} {f : α → Procedure σ ω ε β} {s s' : σ}
    {events : List ω} {a : α} (h : p.run s = ⟨.ok a, s', events⟩) :
    (p >>= f).run s =
      ⟨((f a).run s').result, ((f a).run s').state, events ++ ((f a).run s').events⟩ := by
  rw [run_bind, h]
  rfl

/-- **After a fault the second procedure does not run.** -/
theorem run_bind_of_error {p : Procedure σ ω ε α} {f : α → Procedure σ ω ε β} {s s' : σ}
    {events : List ω} {e : ε} (h : p.run s = ⟨.error e, s', events⟩) :
    (p >>= f).run s = ⟨.error e, s', events⟩ := by
  rw [run_bind, h]
  rfl

/-- Looking at the state leaves it as it is. -/
@[simp] theorem run_get (s : σ) : (get : Procedure σ ω ε σ).run s = ⟨.ok s, s, []⟩ := rfl

/-- Setting the state replaces it. -/
@[simp] theorem run_set (s s' : σ) :
    (set s' : Procedure σ ω ε PUnit).run s = ⟨.ok (), s', []⟩ := rfl

/-- Failing leaves the state as it is. -/
@[simp] theorem run_fail (e : ε) (s : σ) :
    (fail e : Procedure σ ω ε α).run s = ⟨.error e, s, []⟩ := rfl

/-- Recording leaves the state as it is. -/
@[simp] theorem run_record (w : ω) (s : σ) :
    (record w : Procedure σ ω ε Unit).run s = ⟨.ok (), s, [w]⟩ := rfl

/-- A result or fault that is already there leaves the state as it is. -/
@[simp] theorem run_ofExcept (x : Except ε α) (s : σ) :
    (ofExcept x : Procedure σ ω ε α).run s = ⟨x, s, []⟩ := rfl

/-- Attempting a procedure keeps its state and its events. -/
@[simp] theorem run_attempt (p : Procedure σ ω ε α) (s : σ) :
    p.attempt.run s = ⟨.ok (p.run s).result, (p.run s).state, (p.run s).events⟩ := rfl

/-- Going on after a result. -/
@[simp] theorem andThen_ok (a : α) (s : σ) (events : List ω) (f : α → Procedure σ ω ε β) :
    andThen ⟨.ok a, s, events⟩ f =
      ⟨((f a).run s).result, ((f a).run s).state, events ++ ((f a).run s).events⟩ := rfl

/-- Going on after a fault. -/
@[simp] theorem andThen_error (e : ε) (s : σ) (events : List ω)
    (f : α → Procedure σ ω ε β) :
    andThen ⟨.error e, s, events⟩ f = ⟨.error e, s, events⟩ := rfl

/-- In which order procedures are grouped makes no difference. -/
instance : LawfulMonad (Procedure σ ω ε) := by
  refine LawfulMonad.mk' _ ?_ ?_ ?_
  · intro α p
    ext s
    show andThen (p.run s) pure = p.run s
    obtain ⟨_ | _, _, _⟩ := p.run s <;> simp [andThen]
  · intro α β a f
    rfl
  · intro α β γ p f g
    ext s
    show andThen (andThen (p.run s) f) g = andThen (p.run s) fun a => f a >>= g
    obtain ⟨_ | a, s', events⟩ := p.run s
    · rfl
    · simp only [andThen_ok, run_bind]
      obtain ⟨_ | b, s'', events'⟩ := (f a).run s' <;> simp [andThen]

end Procedure

end Ev2Reader
