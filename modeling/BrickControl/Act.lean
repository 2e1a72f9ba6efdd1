/-!
# Acts

An act works on a state and ends with a value or with a failure; the state it reached is kept in
both cases, because what was done to the world before a failure stays done.
-/
namespace BrickControl

/-- A step on a state `σ` that yields an `α` or fails with an `ε`. -/
def Act (σ ε α : Type) : Type := σ → Except ε α × σ

namespace Act

variable {σ ε ε' α β : Type}

/-- The outcome of an act and the state it leaves. -/
def run (act : Act σ ε α) (state : σ) : Except ε α × σ := act state

/-- Ends with a value and leaves the state alone. -/
def done (a : α) : Act σ ε α := fun state => (.ok a, state)

/-- Ends with a failure and leaves the state alone. -/
def fail (e : ε) : Act σ ε α := fun state => (.error e, state)

/-- The second act runs only where the first one succeeded. -/
def andThen (act : Act σ ε α) (next : α → Act σ ε β) : Act σ ε β := fun state =>
  match act state with
  | (.ok a, reached) => next a reached
  | (.error e, reached) => (.error e, reached)

instance : Monad (Act σ ε) where
  pure := done
  bind := andThen

/-- An outcome that is already known. -/
def ofExcept (outcome : Except ε α) : Act σ ε α := fun state => (outcome, state)

/-- The same act with its failure reported in other terms. -/
def mapError (f : ε → ε') (act : Act σ ε α) : Act σ ε' α := fun state =>
  match act state with
  | (.ok a, reached) => (.ok a, reached)
  | (.error e, reached) => (.error (f e), reached)

/-- The act never fails: its outcome becomes its value. -/
def attempt (act : Act σ ε α) : Act σ ε' (Except ε α) := fun state =>
  match act state with
  | (outcome, reached) => (.ok outcome, reached)

/-- Runs `cleanup` after `act` failed; the failure stays the one of `act`. -/
def onFailure (cleanup : σ → σ) (act : Act σ ε α) : Act σ ε α := fun state =>
  match act state with
  | (.ok a, reached) => (.ok a, reached)
  | (.error e, reached) => (.error e, cleanup reached)

/-- Runs `cleanup` after `act`, however `act` ended. -/
def afterwards (cleanup : σ → σ) (act : Act σ ε α) : Act σ ε α := fun state =>
  match act state with
  | (outcome, reached) => (outcome, cleanup reached)

@[simp] theorem pure_run (a : α) (state : σ) :
    (pure a : Act σ ε α).run state = (.ok a, state) := rfl

@[simp] theorem fail_run (e : ε) (state : σ) :
    (fail e : Act σ ε α).run state = (.error e, state) := rfl

theorem bind_run_ok {act : Act σ ε α} {state reached : σ} {a : α}
    (ended : act.run state = (.ok a, reached)) (next : α → Act σ ε β) :
    (act >>= next).run state = (next a).run reached := by
  show andThen act next state = next a reached
  have : act state = (.ok a, reached) := ended
  simp [andThen, this]

theorem bind_run_error {act : Act σ ε α} {state reached : σ} {e : ε}
    (ended : act.run state = (.error e, reached)) (next : α → Act σ ε β) :
    (act >>= next).run state = (.error e, reached) := by
  show andThen act next state = (.error e, reached)
  have : act state = (.error e, reached) := ended
  simp [andThen, this]

instance : LawfulMonad (Act σ ε) := LawfulMonad.mk' _
  (by
    intro α act
    funext state
    show andThen act (fun a => done a) state = act state
    unfold andThen done
    cases act state with
    | mk outcome reached => cases outcome <;> rfl)
  (by intros; rfl)
  (by
    intro α β γ act f g
    funext state
    show andThen (andThen act f) g state = andThen act (fun a => andThen (f a) g) state
    simp only [andThen]
    cases act state with
    | mk outcome reached => cases outcome <;> rfl)

end Act
end BrickControl
