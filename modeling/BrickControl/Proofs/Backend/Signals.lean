import BrickControl.Host
import BrickControl.Proofs.Backend.Journal

/-!
# Signals

A backend on which signals arrive. A call that meets one is cut short before it moves a byte, and
what is behind the signals does not notice that the call was made. Steady calls make such a call
again, so whoever uses nothing else cannot tell the backend from one that is left in peace.
-/
namespace BrickControl

/-- A signal, known by the failure of the call that it cuts short. -/
structure Signal where
  cause : IoError
  interrupts : cause.kind = .interrupted

theorem Signal.isInterruption (signal : Signal) :
    (TransportError.io signal.cause).isInterruption = true := by
  simp [TransportError.isInterruption, signal.interrupts]

/-- A backend and the signals that arrive on it, with an entry for each read and each write to come.
When the entries are used up there are no more signals. -/
structure Signaled (σ : Type) where
  backend : σ
  signals : List (Option Signal)

namespace Signaled

variable {σ : Type} [Backend σ]

instance : Backend (Signaled σ) where
  name signaled := Backend.name signaled.backend
  read room := fun signaled =>
    match Host.answer signaled.signals none with
    | (some signal, later) => (⟨[], .error (.io signal.cause)⟩, ⟨signaled.backend, later⟩)
    | (none, later) =>
      match Backend.read room signaled.backend with
      | (delivery, backend) => (delivery, ⟨backend, later⟩)
  write data := fun signaled =>
    match Host.answer signaled.signals none with
    | (some signal, later) => (.error (.io signal.cause), ⟨signaled.backend, later⟩)
    | (none, later) =>
      match Backend.write data signaled.backend with
      | (outcome, backend) => (outcome, ⟨backend, later⟩)
  close := fun signaled =>
    match Backend.close signaled.backend with
    | (outcome, backend) => (outcome, { signaled with backend })
  patience signaled := Backend.patience signaled.backend + signaled.signals.length

end Signaled

/-! ### Steady calls are retries -/

/-- The call was cut short by a signal. -/
def cutShort : Except TransportError Nat → Bool
  | .ok _ => false
  | .error e => e.isInterruption

private theorem cutShort_eq_false {outcome : Except TransportError Nat} :
    cutShort outcome = false ↔ ∀ e, outcome = .error e → e.isInterruption = false := by
  cases outcome with
  | ok n => simp [cutShort]
  | error e => simp [cutShort]

namespace Backend

variable {σ : Type} [Backend σ]

/-- A read as a step on the buffer and the backend. -/
def reading (held : Bytes × σ) : Except TransportError Nat × (Bytes × σ) :=
  ((readOnce held.1 held.2).1.outcome, (readOnce held.1 held.2).1.buffer,
    (readOnce held.1 held.2).2)

private theorem readAgain_succ (patience : Nat) (buffer : Bytes) (state : σ) :
    readAgain (patience + 1) buffer state =
      if cutShort (readOnce buffer state).1.outcome then
        readAgain patience (readOnce buffer state).1.buffer (readOnce buffer state).2
      else readOnce buffer state := by
  rw [readAgain]
  split
  next equal => rw [equal]; rfl
  next equal => rw [equal]; rfl

private theorem writeAgain_succ (patience : Nat) (data : Bytes) (state : σ) :
    writeAgain (patience + 1) data state =
      if cutShort (Backend.write data state).1 then
        writeAgain patience data (Backend.write data state).2
      else Backend.write data state := by
  simp only [writeAgain]
  split
  next equal => rw [equal]; rfl
  next equal => rw [equal]; rfl

private theorem retry_reading (patience : Nat) (buffer : Bytes) (state : σ) :
    retry cutShort reading patience (buffer, state) =
      ((readAgain patience buffer state).1.outcome, (readAgain patience buffer state).1.buffer,
        (readAgain patience buffer state).2) := by
  induction patience generalizing buffer state with
  | zero => rfl
  | succ patience ih =>
    rw [retry, readAgain_succ]
    by_cases again : cutShort (readOnce buffer state).1.outcome = true
    · simp only [reading, again, if_true, ih]
    · simp [reading, again]

private theorem retry_write (patience : Nat) (data : Bytes) (state : σ) :
    retry cutShort (Backend.write data) patience state = writeAgain patience data state := by
  induction patience generalizing state with
  | zero => rfl
  | succ patience ih => simp only [retry, writeAgain_succ, ih]

end Backend

/-! ### Signals do not show -/

namespace Signaled

variable {σ : Type} [Backend σ]

/-- The backend behind the signals. -/
def Hides (signaled : Signaled σ) (backend : σ) : Prop := signaled.backend = backend

/-- The next call meets a signal or it does not, and a signal that was met is used up. -/
theorem answer_cases (signals : List (Option Signal)) :
    (∃ signal later, Host.answer signals none = (some signal, later) ∧
      later.length < signals.length) ∨
    ∃ later, Host.answer signals none = (none, later) ∧ later.length ≤ signals.length := by
  rcases signals with _ | ⟨_ | signal, later⟩
  · exact .inr ⟨[], rfl, Nat.le_refl _⟩
  · exact .inr ⟨later, rfl, Nat.le_succ _⟩
  · exact .inl ⟨signal, later, rfl, Nat.lt_succ_self _⟩

section

variable {backend : σ} {signals later : List (Option Signal)} {signal : Signal}

private theorem read_cut (next : Host.answer signals none = (some signal, later)) (room : Nat) :
    Backend.read room (⟨backend, signals⟩ : Signaled σ) =
      (⟨[], .error (.io signal.cause)⟩, ⟨backend, later⟩) := by
  simp only [Backend.read, next]

private theorem read_passes (next : Host.answer signals none = (none, later)) (room : Nat) :
    Backend.read room (⟨backend, signals⟩ : Signaled σ) =
      ((Backend.read room backend).1, ⟨(Backend.read room backend).2, later⟩) := by
  simp only [Backend.read, next]

private theorem write_cut (next : Host.answer signals none = (some signal, later)) (data : Bytes) :
    Backend.write data (⟨backend, signals⟩ : Signaled σ) =
      (.error (.io signal.cause), ⟨backend, later⟩) := by
  simp only [Backend.write, next]

private theorem write_passes (next : Host.answer signals none = (none, later)) (data : Bytes) :
    Backend.write data (⟨backend, signals⟩ : Signaled σ) =
      ((Backend.write data backend).1, ⟨(Backend.write data backend).2, later⟩) := by
  simp only [Backend.write, next]

end

/-- The same buffer, in front of signals and behind them. -/
def Holds (left : Bytes × Signaled σ) (right : Bytes × σ) : Prop :=
  left.1 = right.1 ∧ Hides left.2 right.2

/-- A read meets a signal, and then it leaves the buffer and the backend alone, or it is the read
of the backend. -/
theorem reading_course (left : Bytes × Signaled σ) (right : Bytes × σ) (holds : Holds left right) :
    (cutShort (Backend.reading left).1 = true ∧ Holds (Backend.reading left).2 right ∧
      (Backend.reading left).2.2.signals.length < left.2.signals.length) ∨
    (Agree Holds (Backend.reading left) (Backend.reading right) ∧
      (Backend.reading left).2.2.signals.length ≤ left.2.signals.length) := by
  obtain ⟨buffer, backend, signals⟩ := left
  obtain ⟨_, _⟩ := right
  obtain ⟨rfl, rfl⟩ := holds
  rcases answer_cases signals with ⟨signal, later, next, fewer⟩ | ⟨later, next, kept⟩
  · left
    -- A signal comes before any byte is moved.
    have cut : Backend.reading (buffer, (⟨backend, signals⟩ : Signaled σ)) =
        (.error (.io signal.cause), buffer, ⟨backend, later⟩) := by
      simp only [Backend.reading, Backend.readOnce, read_cut next, Bytes.overlay_nil]
    rw [cut]
    exact ⟨signal.isInterruption, ⟨rfl, rfl⟩, fewer⟩
  · right
    have passes : Backend.reading (buffer, (⟨backend, signals⟩ : Signaled σ)) =
        ((Backend.reading (buffer, backend)).1, (Backend.reading (buffer, backend)).2.1,
          ⟨(Backend.reading (buffer, backend)).2.2, later⟩) := by
      simp only [Backend.reading, Backend.readOnce, read_passes next]
    rw [passes]
    exact ⟨⟨rfl, rfl, rfl⟩, kept⟩

/-- A write meets a signal, and then nothing is taken, or it is the write of the backend. -/
private theorem write_course (data : Bytes) (signaled : Signaled σ) (backend : σ)
    (hides : Hides signaled backend) :
    (cutShort (Backend.write data signaled).1 = true ∧
      Hides (Backend.write data signaled).2 backend ∧
      (Backend.write data signaled).2.signals.length < signaled.signals.length) ∨
    (Agree Hides (Backend.write data signaled) (Backend.write data backend) ∧
      (Backend.write data signaled).2.signals.length ≤ signaled.signals.length) := by
  obtain ⟨_, signals⟩ := signaled
  obtain rfl := hides
  -- As for a read, with nothing to hand back.
  rcases answer_cases signals with ⟨signal, later, next, fewer⟩ | ⟨later, next, kept⟩
  · left
    rw [write_cut next]
    exact ⟨signal.isInterruption, rfl, fewer⟩
  · right
    rw [write_passes next]
    exact ⟨⟨rfl, rfl⟩, kept⟩

variable [Backend.Patient σ]

/-- A steady call is cut short by the signals in front of it, and then it is the one of the backend
behind them. -/
theorem hides_steady : Backend.Steady (Hides : Signaled σ → σ → Prop) where
  read := by
    rintro buffer ⟨backend, signals⟩ _ rfl
    -- The patience is the one of the backend and a try for each signal.
    have hidden := retry_hides (fun held : Bytes × Signaled σ => held.2.signals.length)
      reading_course (Nat.le_refl (Backend.patience backend + signals.length))
      (⟨rfl, rfl⟩ : Holds (buffer, ⟨backend, signals⟩) (buffer, backend))
      (by
        -- A patient backend does not end in an interruption of its own.
        rw [Backend.retry_reading, cutShort_eq_false]
        exact Backend.Patient.read buffer backend)
    rw [Backend.retry_reading, Backend.retry_reading] at hidden
    obtain ⟨outcome, held, behind⟩ := hidden
    exact ⟨congrArg₂ Filled.mk outcome held, behind⟩
  write := by
    rintro data ⟨backend, signals⟩ _ rfl
    have hidden := retry_hides (fun signaled : Signaled σ => signaled.signals.length)
      (write_course data) (Nat.le_refl (Backend.patience backend + signals.length))
      (rfl : Hides ⟨backend, signals⟩ backend)
      (by
        rw [Backend.retry_write, cutShort_eq_false]
        exact Backend.Patient.write data backend)
    rw [Backend.retry_write, Backend.retry_write] at hidden
    exact hidden

/-- Signals do not use up the patience that a backend has for its own interruptions. -/
instance patient : Backend.Patient (Signaled σ) where
  read := by
    intro buffer signaled e failed
    obtain ⟨same, _⟩ := hides_steady.read buffer signaled _ rfl
    rw [same] at failed
    exact Backend.Patient.read buffer signaled.backend e failed
  write := by
    intro data signaled e failed
    obtain ⟨same, _⟩ := hides_steady.write data signaled _ rfl
    rw [same] at failed
    exact Backend.Patient.write data signaled.backend e failed

end Signaled
end BrickControl
