import BrickControl.Act

/-!
# Rules for acts

Ways to follow an act through its parts. `Alike` runs it from two related states and asks for the
same outcome; `each` takes one step after the other, and `retry` the same step again. `Leads` starts
from a condition and says what holds after a value and what holds after a failure, so that a failure
part of the way is not forgotten.
-/
namespace BrickControl

/-- The same outcome on both sides, and states that are related. -/
def Agree {α σ τ : Type} (R : σ → τ → Prop) (left : α × σ) (right : α × τ) : Prop :=
  left.1 = right.1 ∧ R left.2 right.2

theorem Agree.split {α σ τ : Type} {R : σ → τ → Prop} {left : α × σ} {right : α × τ}
    (agree : Agree R left right) :
    ∃ a s t, left = (a, s) ∧ right = (a, t) ∧ R s t := by
  obtain ⟨a, s⟩ := left
  obtain ⟨b, t⟩ := right
  obtain ⟨same, related⟩ := agree
  cases same
  exact ⟨a, s, t, rfl, rfl, related⟩

theorem Agree.other {α σ τ : Type} {R : σ → τ → Prop} {left : α × σ} {right : α × τ}
    (agree : Agree R left right) {a : α} {s : σ} (ended : left = (a, s)) :
    ∃ t, right = (a, t) ∧ R s t := by
  -- The left side ends in one way only.
  obtain ⟨b, s', t, ended', right, related⟩ := agree.split
  rw [ended] at ended'
  cases ended'
  exact ⟨t, right, related⟩

/-- What is made of the outcome is the same on both sides too. -/
theorem Agree.map {α β σ τ : Type} {R : σ → τ → Prop} {left : α × σ} {right : α × τ}
    (agree : Agree R left right) (f : α → β) : Agree R (f left.1, left.2) (f right.1, right.2) :=
  ⟨congrArg f agree.1, agree.2⟩

section

variable {α β σ τ : Type} {R : σ → τ → Prop}

/-- Takes a step for each element of a list, one after the other. -/
def each (step : α → σ → β × σ) : List α → σ → List β × σ
  | [], state => ([], state)
  | a :: rest, state =>
    ((step a state).1 :: (each step rest (step a state).2).1, (each step rest (step a state).2).2)

/-- Steps that agree one by one agree as a whole, outcome by outcome. -/
theorem each_agree {left : α → σ → β × σ} {right : α → τ → β × τ}
    (steps : ∀ a s t, R s t → Agree R (left a s) (right a t)) (list : List α) (s : σ) (t : τ)
    (related : R s t) : Agree R (each left list s) (each right list t) := by
  -- The states behind the first step are related again, so the rest is the same list of steps from
  -- there.
  induction list generalizing s t with
  | nil => exact ⟨rfl, related⟩
  | cons a rest ih =>
    obtain ⟨same, related'⟩ := steps a s t related
    obtain ⟨later, related''⟩ := ih _ _ related'
    exact ⟨by simp only [each, same, later], related''⟩

/-- Takes a step again as long as its outcome asks for it, at most `patience` times. -/
def retry (again : α → Bool) (step : σ → α × σ) : Nat → σ → α × σ
  | 0, state => step state
  | patience + 1, state =>
    if again (step state).1 then retry again step patience (step state).2 else step state

/-- On the left some tries come to nothing and leave the states related. Where patience covers them
besides the tries of the right side, the outcome is the one of the right side. -/
theorem retry_hides {again : α → Bool} {left : σ → α × σ} {right : τ → α × τ} (idle : σ → Nat)
    (course : ∀ s t, R s t →
      (again (left s).1 = true ∧ R (left s).2 t ∧ idle (left s).2 < idle s) ∨
      (Agree R (left s) (right t) ∧ idle (left s).2 ≤ idle s))
    {patience tries : Nat} {s : σ} {t : τ} (enough : tries + idle s ≤ patience) (related : R s t)
    (settled : again (retry again right tries t).1 = false) :
    Agree R (retry again left patience s) (retry again right tries t) := by
  -- The induction is on the patience of the left side: each of its tries is idle or one of the
  -- tries of the right side.
  induction patience generalizing tries s t with
  | zero =>
    obtain rfl : tries = 0 := by omega
    rcases course s t related with ⟨_, _, fewer⟩ | ⟨agree, _⟩
    · omega
    · exact agree
  | succ patience ih =>
    -- An idle try costs the left side alone one of its tries, and the idle ones become fewer.
    rcases course s t related with ⟨repeats, related', fewer⟩ | ⟨agree, kept⟩
    · have hidden := ih (by omega) related' settled
      simpa only [retry, repeats, if_true] using hidden
    · have same : (left s).1 = (right t).1 := agree.1
      -- Both sides made the same try, so either both have settled or both go on.
      cases tries with
      | zero =>
        have final : again (left s).1 = false := by rw [same]; exact settled
        simpa [retry, final] using agree
      | succ tries =>
        by_cases repeats : again (right t).1 = true
        · simp only [retry, repeats, if_true] at settled
          have hidden := ih (by omega) agree.2 settled
          simpa only [retry, same, repeats, if_true] using hidden
        · simpa [retry, same, repeats] using agree

end

namespace Act

variable {σ τ ε ε' α β : Type} {R : σ → τ → Prop}

/-- Acts with the same outcome from related states, which leave related states behind. -/
def Alike (R : σ → τ → Prop) (left : Act σ ε α) (right : Act τ ε α) : Prop :=
  ∀ s t, R s t → Agree R (left.run s) (right.run t)

/-- A failure of the first act ends both sides, and after a value both go on with the same one. -/
theorem Alike.bind {left : Act σ ε α} {right : Act τ ε α} {left' : α → Act σ ε β}
    {right' : α → Act τ ε β} (first : Alike R left right)
    (second : ∀ a, Alike R (left' a) (right' a)) :
    Alike R (left >>= left') (right >>= right') := by
  intro s t related
  obtain ⟨outcome, s', t', ended, ended', related'⟩ := (first s t related).split
  cases outcome with
  | error e =>
    -- The second act is not run on either side.
    rw [bind_run_error ended, bind_run_error ended']
    exact ⟨rfl, related'⟩
  | ok a =>
    rw [bind_run_ok ended, bind_run_ok ended']
    exact second a s' t' related'

theorem alike_known (outcome : Except ε α) :
    Alike R (Act.ofExcept outcome) (Act.ofExcept outcome) :=
  fun _ _ related => ⟨rfl, related⟩

theorem Alike.ite {c : Prop} [Decidable c] {left left' : Act σ ε α} {right right' : Act τ ε α}
    (first : Alike R left right) (second : Alike R left' right') :
    Alike R (if c then left else left') (if c then right else right') := by
  split
  · exact first
  · exact second

theorem Alike.mapError {left : Act σ ε α} {right : Act τ ε α} (f : ε → ε')
    (alike : Alike R left right) : Alike R (left.mapError f) (right.mapError f) := by
  intro s t related
  obtain ⟨outcome, s', t', ended, ended', related'⟩ := (alike s t related).split
  simp only [Act.run] at ended ended'
  simp only [Act.run, Act.mapError, ended, ended']
  cases outcome with
  | error e => exact ⟨rfl, related'⟩
  | ok a => exact ⟨rfl, related'⟩

theorem Alike.attempt {left : Act σ ε α} {right : Act τ ε α} (alike : Alike R left right) :
    Alike R (left.attempt : Act σ ε' _) right.attempt := by
  intro s t related
  obtain ⟨outcome, s', t', ended, ended', related'⟩ := (alike s t related).split
  simp only [Act.run] at ended ended'
  simp only [Act.run, Act.attempt, ended, ended']
  exact ⟨rfl, related'⟩

section

variable {left : Act σ ε α} {right : Act τ ε α} {cleanup : σ → σ} {cleanup' : τ → τ}

theorem Alike.onFailure (alike : Alike R left right)
    (cleans : ∀ s t, R s t → R (cleanup s) (cleanup' t)) :
    Alike R (left.onFailure cleanup) (right.onFailure cleanup') := by
  intro s t related
  obtain ⟨outcome, s', t', ended, ended', related'⟩ := (alike s t related).split
  simp only [Act.run] at ended ended'
  simp only [Act.run, Act.onFailure, ended, ended']
  cases outcome with
  -- Both sides clean up, or neither does: the outcome is one.
  | error e => exact ⟨rfl, cleans s' t' related'⟩
  | ok a => exact ⟨rfl, related'⟩

theorem Alike.afterwards (alike : Alike R left right)
    (cleans : ∀ s t, R s t → R (cleanup s) (cleanup' t)) :
    Alike R (left.afterwards cleanup) (right.afterwards cleanup') := by
  intro s t related
  obtain ⟨outcome, s', t', ended, ended', related'⟩ := (alike s t related).split
  simp only [Act.run] at ended ended'
  simp only [Act.run, Act.afterwards, ended, ended']
  exact ⟨rfl, cleans s' t' related'⟩

end

section

variable {act : Act σ ε α} {state reached : σ}

theorem mapError_run_ok (f : ε → ε') {a : α} (ended : act.run state = (.ok a, reached)) :
    (act.mapError f).run state = (.ok a, reached) := by
  simp only [Act.run] at ended
  simp only [Act.run, Act.mapError, ended]

theorem mapError_run_error (f : ε → ε') {e : ε} (ended : act.run state = (.error e, reached)) :
    (act.mapError f).run state = (.error (f e), reached) := by
  simp only [Act.run] at ended
  simp only [Act.run, Act.mapError, ended]

theorem attempt_run {outcome : Except ε α} (ended : act.run state = (outcome, reached)) :
    (act.attempt : Act σ ε' _).run state = (.ok outcome, reached) := by
  simp only [Act.run] at ended
  simp only [Act.run, Act.attempt, ended]

theorem afterwards_run (cleanup : σ → σ) {outcome : Except ε α}
    (ended : act.run state = (outcome, reached)) :
    (act.afterwards cleanup).run state = (outcome, cleanup reached) := by
  simp only [Act.run] at ended
  simp only [Act.run, Act.afterwards, ended]

end

theorem mapError_failed {f : ε → ε'} {act : Act σ ε α} {state reached : σ} {e : ε'}
    (failed : (act.mapError f).run state = (.error e, reached)) :
    ∃ cause, act.run state = (.error cause, reached) ∧ e = f cause := by
  simp only [Act.run, Act.mapError] at failed ⊢
  cases ended : act state with
  | mk outcome last =>
    rw [ended] at failed
    cases outcome with
    | ok a => cases failed
    | error cause =>
      cases failed
      exact ⟨cause, rfl, rfl⟩

/-! ### Conditions before and after -/

variable {before failed : σ → Prop} {after : α → σ → Prop}

/-- From a state with `before`, the act ends with a value and `after`, or it fails with `failed`. -/
def Leads (before : σ → Prop) (act : Act σ ε α) (after : α → σ → Prop) (failed : σ → Prop) : Prop :=
  ∀ state, before state →
    match act.run state with
    | (.ok a, reached) => after a reached
    | (.error _, reached) => failed reached

theorem Leads.ok {act : Act σ ε α} (leads : Leads before act after failed) {state reached : σ}
    {a : α} (holds : before state) (ended : act.run state = (.ok a, reached)) :
    after a reached := by
  have reached := leads state holds
  rwa [ended] at reached

theorem Leads.error {act : Act σ ε α} (leads : Leads before act after failed) {state reached : σ}
    {e : ε} (holds : before state) (ended : act.run state = (.error e, reached)) :
    failed reached := by
  have reached := leads state holds
  rwa [ended] at reached

/-- What holds at both ends holds at the end, whichever it is. -/
theorem Leads.ends {act : Act σ ε α} (leads : Leads before act after failed)
    (weaken : ∀ a state, after a state → failed state) {state : σ} (holds : before state) :
    failed (act.run state).2 := by
  have reached := leads state holds
  revert reached
  rcases act.run state with ⟨_ | a, last⟩
  · exact id
  · exact weaken a last

theorem Leads.state {act : Act σ ε α} (leads : Leads before act (fun _ => failed) failed)
    {state : σ} (holds : before state) : failed (act.run state).2 :=
  leads.ends (fun _ _ => id) holds

/-- Where nothing depends on the outcome, it is enough to say where the act ends. -/
theorem Leads.of_state {act : Act σ ε α}
    (moves : ∀ state, before state → failed (act.run state).2) :
    Leads before act (fun _ => failed) failed := by
  intro state holds
  have reached := moves state holds
  revert reached
  rcases act.run state with ⟨_ | _, last⟩
  · exact id
  · exact id

/-- What held between the two acts is lost with the first failure, so that failure alone has to do.
-/
theorem Leads.bind {between : α → σ → Prop} {last : β → σ → Prop} {act : Act σ ε α}
    {next : α → Act σ ε β} (first : Leads before act between failed)
    (second : ∀ a, Leads (between a) (next a) last failed) :
    Leads before (act >>= next) last failed := by
  intro state holds
  cases ended : act.run state with
  | mk outcome reached =>
    cases outcome with
    | error e =>
      -- What failed here is not followed by anything, so this is the failure of the whole.
      rw [bind_run_error ended]
      exact first.error holds ended
    | ok a =>
      rw [bind_run_ok ended]
      exact second a reached (first.ok holds ended)

theorem leads_pure {a : α} (keeps : ∀ state, before state → after a state) :
    Leads before (pure a : Act σ ε α) after failed := keeps

theorem leads_known (outcome : Except ε α) :
    Leads before (Act.ofExcept outcome) (fun _ => before) before :=
  .of_state fun _ holds => holds

theorem Leads.ite {c : Prop} [Decidable c] {yes no : Act σ ε α}
    (leads : Leads before yes after failed) (leads' : Leads before no after failed) :
    Leads before (if c then yes else no) after failed := by
  split
  · exact leads
  · exact leads'

theorem Leads.mapError (f : ε → ε') {act : Act σ ε α} (leads : Leads before act after failed) :
    Leads before (act.mapError f) after failed := by
  intro state holds
  simp only [Act.run, Act.mapError]
  cases ended : act state with
  | mk outcome reached =>
    cases outcome with
    | error e => exact leads.error holds ended
    | ok a => exact leads.ok holds ended

/-- An attempt takes failures for values, so it never fails itself. -/
theorem Leads.attempt {act : Act σ ε α} (leads : Leads before act (fun _ => failed) failed)
    {never : σ → Prop} : Leads before (act.attempt : Act σ ε' _) (fun _ => failed) never := by
  intro state holds
  have reached := leads.state holds
  simp only [Act.run, Act.attempt] at reached ⊢
  cases ended : act state with
  | mk outcome last =>
    -- Whichever way the act ended, the attempt has a value.
    rw [ended] at reached
    exact reached

/-- What failed is cleaned up after, and only then. -/
theorem Leads.onFailure {given : σ → Prop} {act : Act σ ε α} {cleanup : σ → σ}
    (leads : Leads before act after given)
    (cleans : ∀ state, given state → failed (cleanup state)) :
    Leads before (act.onFailure cleanup) after failed := by
  intro state holds
  simp only [Act.run, Act.onFailure]
  cases ended : act state with
  | mk outcome reached =>
    cases outcome with
    | error e => exact cleans reached (leads.error holds ended)
    | ok a => exact leads.ok holds ended

/-- What is cleaned up after either way may have ended either way. -/
theorem Leads.afterwards {given : α → σ → Prop} {spoilt : σ → Prop} {act : Act σ ε α}
    {cleanup : σ → σ} (leads : Leads before act given spoilt)
    (cleans : ∀ a state, given a state → after a (cleanup state))
    (cleans' : ∀ state, spoilt state → failed (cleanup state)) :
    Leads before (act.afterwards cleanup) after failed := by
  intro state holds
  simp only [Act.run, Act.afterwards]
  cases ended : act state with
  | mk outcome reached =>
    cases outcome with
    | error e => exact cleans' reached (leads.error holds ended)
    | ok a => exact cleans a reached (leads.ok holds ended)

end Act
end BrickControl
