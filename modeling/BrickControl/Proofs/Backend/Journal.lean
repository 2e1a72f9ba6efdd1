import BrickControl.Proofs.Backend.Alike
import BrickControl.Proofs.Backend.Rehearsal
import Mathlib.Data.List.TakeDrop

/-!
# Journals of backend calls

A journaled backend keeps what it was asked and what it reported, call by call. In the journal the
tries of a steady call show one by one. `Heeds` says of a run of calls that it stops at the first
failure, and that what was cut short is tried again; it is put together from its parts.
-/
namespace BrickControl

/-- What a call asks of a backend. -/
inductive Ask where
  | read (room : Nat)
  | write (data : Bytes)
  | close
  deriving DecidableEq

/-- One call and what the backend reported. -/
structure Exchange where
  ask : Ask
  reported : Except TransportError Nat
  deriving DecidableEq

namespace Exchange

/-- How much the call moved, by its own report. -/
def count (call : Exchange) : Nat :=
  match call.reported with
  | .ok n => n
  | .error _ => 0

def interrupted (call : Exchange) : Bool :=
  match call.reported with
  | .ok _ => false
  | .error e => e.isInterruption

/-- What the backend took in the call, by its own report. -/
def taken : Exchange → Bytes
  | ⟨.write data, .ok n⟩ => data.take n
  | _ => []

/-- The failure with which the call ends a transfer in pieces. Where nothing moves any more the peer
is gone. -/
def fault? (call : Exchange) : Option TransportError :=
  match call.reported with
  | .ok 0 => some .disconnected
  | .ok (_ + 1) => none
  | .error e => if e.isInterruption then none else some e

section

variable (ask : Ask) (n : Nat) (e : TransportError)

@[simp] theorem count_ok : count ⟨ask, .ok n⟩ = n := rfl

@[simp] theorem count_error : count ⟨ask, .error e⟩ = 0 := rfl

@[simp] theorem interrupted_ok : interrupted ⟨ask, .ok n⟩ = false := rfl

@[simp] theorem interrupted_error : interrupted ⟨ask, .error e⟩ = e.isInterruption := rfl

@[simp] theorem fault_nothing : fault? ⟨ask, .ok 0⟩ = some .disconnected := rfl

@[simp] theorem fault_piece : fault? ⟨ask, .ok (n + 1)⟩ = none := rfl

@[simp] theorem fault_error :
    fault? ⟨ask, .error e⟩ = if e.isInterruption then none else some e := rfl

end

/-- A read gave no more than it was asked for. -/
def Fits (call : Exchange) : Prop := ∀ room, call.ask = .read room → call.count ≤ room

/-- How much the calls moved together. -/
def moved : List Exchange → Nat
  | [] => 0
  | call :: rest => call.count + moved rest

@[simp] theorem moved_nil : moved [] = 0 := rfl

@[simp] theorem moved_cons (call : Exchange) (rest : List Exchange) :
    moved (call :: rest) = call.count + moved rest := rfl

@[simp] theorem moved_append (front back : List Exchange) :
    moved (front ++ back) = moved front + moved back := by
  induction front with
  | nil => simp
  | cons call front ih =>
    rw [List.cons_append, moved_cons, moved_cons, ih, Nat.add_assoc]

/-- Calls that were cut short moved nothing. -/
theorem moved_interrupted {calls : List Exchange} (cut : ∀ call ∈ calls, call.interrupted) :
    moved calls = 0 := by
  induction calls with
  | nil => rfl
  | cons call rest ih =>
    obtain ⟨now, later⟩ := List.forall_mem_cons.mp cut
    obtain ⟨ask, reported⟩ := call
    -- A call with a count was not cut short.
    cases reported with
    | ok n => cases now
    | error e => rw [moved_cons, ih later, count_error]

private theorem settled_interrupted {calls : List Exchange}
    (cut : ∀ call ∈ calls, call.interrupted) :
    calls.countP (fun call => !call.interrupted) = 0 := by
  rw [List.countP_eq_zero]
  intro call member
  simp [cut call member]

/-- Behind tries that were cut short there is one that counts. -/
theorem settled_tries {cut rest : List Exchange} {call : Exchange}
    (all : ∀ call ∈ cut, call.interrupted) (final : call.interrupted = false) :
    (cut ++ call :: rest).countP (fun call => !call.interrupted) =
      1 + rest.countP (fun call => !call.interrupted) := by
  rw [List.countP_append, settled_interrupted all, List.countP_cons, final]
  simp [Nat.add_comm]

end Exchange

/-- A backend and the calls that were made on it, the latest one last. -/
structure Journaled (σ : Type) where
  backend : σ
  journal : List Exchange := []

namespace Journaled

variable {σ : Type} [Backend σ]

instance : Backend (Journaled σ) where
  name journaled := Backend.name journaled.backend
  read room := fun journaled =>
    match Backend.read room journaled.backend with
    | (delivery, backend) =>
      (delivery, ⟨backend, journaled.journal ++ [⟨.read room, delivery.outcome⟩]⟩)
  write data := fun journaled =>
    match Backend.write data journaled.backend with
    | (outcome, backend) => (outcome, ⟨backend, journaled.journal ++ [⟨.write data, outcome⟩]⟩)
  close := fun journaled =>
    match Backend.close journaled.backend with
    | (outcome, backend) =>
      (outcome, ⟨backend, journaled.journal ++ [⟨.close, outcome.map fun _ => 0⟩]⟩)
  patience journaled := Backend.patience journaled.backend

def Keeps (journaled : Journaled σ) (backend : σ) : Prop := journaled.backend = backend

omit [Backend σ] in
theorem keeps_self (journaled : Journaled σ) : Keeps journaled journaled.backend := rfl

/-- A backend does not behave differently when a journal is kept of it. -/
theorem keeps_alike : Backend.Alike (Keeps : Journaled σ → σ → Prop) where
  read := by
    rintro room journaled _ rfl
    exact ⟨rfl, rfl⟩
  write := by
    rintro data journaled _ rfl
    exact ⟨rfl, rfl⟩
  name := by
    rintro journaled _ rfl
    rfl
  patience := by
    rintro journaled _ rfl
    rfl

theorem read_run (room : Nat) (state : Journaled σ) :
    Backend.read room state = ((Backend.read room state.backend).1,
      ⟨(Backend.read room state.backend).2,
        state.journal ++ [⟨.read room, (Backend.read room state.backend).1.outcome⟩]⟩) := rfl

theorem write_run (data : Bytes) (state : Journaled σ) :
    Backend.write data state = ((Backend.write data state.backend).1,
      ⟨(Backend.write data state.backend).2,
        state.journal ++ [⟨.write data, (Backend.write data state.backend).1⟩]⟩) := rfl

/-- A read shows in the journal with the room of its buffer. -/
theorem readOnce_journal (buffer : Bytes) (state : Journaled σ) :
    (Backend.readOnce buffer state).2.journal =
      state.journal ++ [⟨.read buffer.length, (Backend.readOnce buffer state).1.outcome⟩] := rfl

theorem write_journal (data : Bytes) (state : Journaled σ) :
    (Backend.write data state).2.journal =
      state.journal ++ [⟨.write data, (Backend.write data state).1⟩] := rfl

end Journaled

/-! ### Steady calls -/

/-- The patience of every state covers the interruptions that are to come, so that no steady call
ends in one. -/
class Backend.Patient (σ : Type) [Backend σ] : Prop where
  read : ∀ (buffer : Bytes) (state : σ) (e : TransportError),
    (Backend.steadyRead buffer state).1.outcome = .error e → e.isInterruption = false
  write : ∀ (data : Bytes) (state : σ) (e : TransportError),
    (Backend.steadyWrite data state).1 = .error e → e.isInterruption = false

instance Rehearsal.patient : Backend.Patient Rehearsal where
  read := by
    intro buffer rehearsal e failed
    rw [steadyRead_eq] at failed
    -- Past the interruptions the plan does not start with one.
    rcases read_interrupted_or_settled buffer (rehearsal.pastReadInterruptions buffer.length) with
      ⟨e', rest, plan, again⟩ | ⟨_, settled⟩
    · have first := List.head?_dropWhile_not Turn.interrupts rehearsal.readPlan
      have plan : rehearsal.readPlan.dropWhile Turn.interrupts = .fails e' :: rest := plan
      simp [plan, Turn.interrupts, again] at first
    · exact settled e failed
  write := by
    intro data rehearsal e failed
    rw [steadyWrite_eq] at failed
    rcases write_interrupted_or_settled data (rehearsal.pastWriteInterruptions data) with
      ⟨e', rest, plan, again⟩ | ⟨_, settled⟩
    · have first := List.head?_dropWhile_not Turn.interrupts rehearsal.writePlan
      have plan : rehearsal.writePlan.dropWhile Turn.interrupts = .fails e' :: rest := plan
      simp [plan, Turn.interrupts, again] at first
    · exact settled e failed

instance Journaled.patient {σ : Type} [Backend σ] [Backend.Patient σ] :
    Backend.Patient (Journaled σ) where
  read := by
    intro buffer state e failed
    obtain ⟨same, _⟩ := keeps_alike.steadyRead buffer state _ state.keeps_self
    rw [same] at failed
    exact Backend.Patient.read buffer state.backend e failed
  write := by
    intro data state e failed
    obtain ⟨same, _⟩ := keeps_alike.steadyWrite data state _ state.keeps_self
    rw [same] at failed
    exact Backend.Patient.write data state.backend e failed

/-- The tries of a steady call: all but the last are cut short, and they ask for the same. -/
inductive Settles (ask : Ask) (reported : Except TransportError Nat) : List Exchange → Prop where
  | once : Settles ask reported [⟨ask, reported⟩]
  | again {e : TransportError} {rest : List Exchange} (interrupted : e.isInterruption)
      (settles : Settles ask reported rest) : Settles ask reported (⟨ask, .error e⟩ :: rest)

namespace Settles

variable {ask : Ask} {reported : Except TransportError Nat} {calls : List Exchange}

theorem ask_eq (settles : Settles ask reported calls) : ∀ call ∈ calls, call.ask = ask := by
  induction settles with
  | once => simp
  | again interrupted settles ih => simpa using ih

private theorem next (settles : Settles ask reported calls) :
    ∃ first others, calls = first :: others ∧ first.ask = ask := by
  cases settles with
  | once => exact ⟨_, _, rfl, rfl⟩
  | again => exact ⟨_, _, rfl, rfl⟩

/-- Only the last try counts. -/
theorem split (settles : Settles ask reported calls) :
    ∃ cut, calls = cut ++ [⟨ask, reported⟩] ∧ ∀ call ∈ cut, call.ask = ask ∧ call.interrupted := by
  induction settles with
  | once => exact ⟨[], rfl, by simp⟩
  | @again e rest interrupted settles ih =>
    obtain ⟨cut, parts, all⟩ := ih
    refine ⟨⟨ask, .error e⟩ :: cut, by rw [parts, List.cons_append], ?_⟩
    simp only [List.forall_mem_cons]
    exact ⟨⟨trivial, interrupted⟩, all⟩

end Settles

namespace Journaled

variable {σ : Type} [Backend σ]

private theorem readAgain_settles (patience : Nat) (buffer : Bytes) (state : Journaled σ) :
    ∃ calls, (Backend.readAgain patience buffer state).2.journal = state.journal ++ calls ∧
      Settles (.read buffer.length) (Backend.readAgain patience buffer state).1.outcome calls := by
  induction patience generalizing buffer state with
  | zero => exact ⟨_, readOnce_journal buffer state, .once⟩
  | succ patience ih =>
    have journal := readOnce_journal buffer state
    have size := Backend.length_readOnce buffer state
    unfold Backend.readAgain
    split
    next equal =>
      rw [equal] at journal
      exact ⟨_, journal, .once⟩
    next e held after equal =>
      rw [equal] at journal size
      split
      next interrupted =>
        -- The next try has a buffer of the same size.
        obtain ⟨calls, grown, settles⟩ := ih held after
        rw [size] at settles
        exact ⟨_ :: calls, by rw [grown, journal, List.append_assoc, List.singleton_append],
          settles.again interrupted⟩
      next => exact ⟨_, journal, .once⟩

private theorem writeAgain_settles (patience : Nat) (data : Bytes) (state : Journaled σ) :
    ∃ calls, (Backend.writeAgain patience data state).2.journal = state.journal ++ calls ∧
      Settles (.write data) (Backend.writeAgain patience data state).1 calls := by
  induction patience generalizing state with
  | zero => exact ⟨_, write_journal data state, .once⟩
  | succ patience ih =>
    have journal := write_journal data state
    simp only [Backend.writeAgain]
    split
    next equal =>
      rw [equal] at journal
      exact ⟨_, journal, .once⟩
    next e after equal =>
      rw [equal] at journal
      split
      next interrupted =>
        obtain ⟨calls, grown, settles⟩ := ih after
        exact ⟨_ :: calls, by rw [grown, journal, List.append_assoc, List.singleton_append],
          settles.again interrupted⟩
      next => exact ⟨_, journal, .once⟩

/-- The tries of a steady read stand in the journal, with its outcome behind the last of them. -/
theorem steadyRead_settles (buffer : Bytes) (state : Journaled σ) :
    ∃ calls, (Backend.steadyRead buffer state).2.journal = state.journal ++ calls ∧
      Settles (.read buffer.length) (Backend.steadyRead buffer state).1.outcome calls :=
  readAgain_settles _ buffer state

theorem steadyWrite_settles (data : Bytes) (state : Journaled σ) :
    ∃ calls, (Backend.steadyWrite data state).2.journal = state.journal ++ calls ∧
      Settles (.write data) (Backend.steadyWrite data state).1 calls :=
  writeAgain_settles _ data state

end Journaled

/-! ### Runs of calls that stop at a failure -/

/-- A call among those of two runs is one of the first or one of the second. -/
theorem append_eq_append_cons {first second front back : List Exchange} {call : Exchange}
    (parts : first ++ second = front ++ call :: back) :
    (∃ late, first = front ++ call :: late ∧ back = late ++ second) ∨
    ∃ early, front = first ++ early ∧ second = early ++ call :: back := by
  rcases List.append_eq_append_iff.mp parts with ⟨early, same, rest⟩ | ⟨late, same, rest⟩
  · exact .inr ⟨early, same, rest⟩
  · -- The call is the first one of the second run if nothing of the first is left over.
    cases late with
    | nil => exact .inr ⟨[], by rw [same, List.append_nil, List.append_nil], rest.symm⟩
    | cons first' late =>
      rw [List.cons_append, List.cons.injEq] at rest
      obtain ⟨rfl, rest⟩ := rest
      exact .inl ⟨late, same, rest⟩

/-- The failure in which an act ended. -/
def failure? {ε α : Type} : Except ε α → Option ε
  | .ok _ => none
  | .error e => some e

theorem error_of_failure {ε α : Type} {outcome : Except ε α} {e : ε}
    (failed : failure? outcome = some e) : outcome = .error e := by
  cases outcome with
  | ok a => cases failed
  | error e' =>
    cases failed
    rfl

/-- Nothing is called after a call with a fault, and its fault is the failure of the whole; a call
that is to be repeated is followed by one that asks for the same. -/
def Heeds {ε : Type} (fault? : Exchange → Option ε) (repeated : Exchange → Bool)
    (failure : Option ε) : List Exchange → Prop
  | [] => True
  | call :: rest =>
    (∀ e, fault? call = some e → rest = [] ∧ failure = some e) ∧
    (repeated call → ∃ next others, rest = next :: others ∧ next.ask = call.ask) ∧
    Heeds fault? repeated failure rest

namespace Heeds

variable {ε ε' : Type} {fault? : Exchange → Option ε} {repeated : Exchange → Bool}
  {failure : Option ε} {front back rest : List Exchange} {call : Exchange}

/-- What is heeded in a run of calls is heeded from any point of it on. -/
theorem tail (heeds : Heeds fault? repeated failure (front ++ back)) :
    Heeds fault? repeated failure back := by
  induction front with
  | nil => exact heeds
  | cons call front ih => exact ih heeds.2.2

/-- A call with a fault is the last one, and the act fails with that fault. -/
theorem stops (heeds : Heeds fault? repeated failure (front ++ call :: back)) {e : ε}
    (fault : fault? call = some e) : back = [] ∧ failure = some e :=
  heeds.tail.1 e fault

/-- A call that is to be made again is followed by one that asks for the same. -/
theorem repeats (heeds : Heeds fault? repeated failure (front ++ call :: back))
    (again : repeated call) : ∃ next others, back = next :: others ∧ next.ask = call.ask :=
  heeds.tail.2.1 again

theorem single (ends : ∀ e, fault? call = some e → failure = some e)
    (final : repeated call = false) : Heeds fault? repeated failure [call] :=
  ⟨fun e fault => ⟨rfl, ends e fault⟩, by simp [final], trivial⟩

/-- More calls follow where there was no failure. -/
theorem append (first : Heeds fault? repeated none front)
    (second : Heeds fault? repeated failure back) :
    Heeds fault? repeated failure (front ++ back) := by
  induction front with
  | nil => exact second
  | cons call front ih =>
    obtain ⟨stops, again, later⟩ := first
    refine ⟨?_, ?_, ih later⟩
    · intro e fault
      -- The first act did not fail, so none of its calls had a fault.
      obtain ⟨_, impossible⟩ := stops e fault
      cases impossible
    · intro repeated
      obtain ⟨next, others, rfl, same⟩ := again repeated
      exact ⟨next, others ++ back, rfl, same⟩

/-- Calls that met no failure are those of an act that ends in whatever way. -/
theorem anyhow (heeds : Heeds fault? repeated none front) (failure : Option ε) :
    Heeds fault? repeated failure front := by
  have more : Heeds fault? repeated failure (front ++ []) := heeds.append trivial
  rwa [List.append_nil] at more

theorem map (f : ε → ε') (heeds : Heeds fault? repeated failure rest) :
    Heeds (fun call => (fault? call).map f) repeated (failure.map f) rest := by
  induction rest with
  | nil => trivial
  | cons call rest ih =>
    obtain ⟨stops, again, later⟩ := heeds
    refine ⟨?_, again, ih later⟩
    intro e fault
    obtain ⟨cause, found, rfl⟩ := Option.map_eq_some_iff.mp fault
    obtain ⟨last, failed⟩ := stops cause found
    exact ⟨last, by rw [failed, Option.map_some]⟩

end Heeds

/-- The tries of a steady call heed their failures: the interruptions are repeated, and the last try
ends the act if it failed. -/
theorem Settles.heeds {ask : Ask} {reported : Except TransportError Nat} {calls : List Exchange}
    {failure : Option TransportError} (settles : Settles ask reported calls)
    (ends : ∀ e, Exchange.fault? ⟨ask, reported⟩ = some e → failure = some e)
    (final : Exchange.interrupted ⟨ask, reported⟩ = false) :
    Heeds Exchange.fault? Exchange.interrupted failure calls := by
  induction settles with
  | once => exact .single ends final
  -- An interruption is no fault, and the try behind it asks for the same.
  | again interrupted settles ih => exact ⟨by simp [interrupted], fun _ => settles.next, ih⟩

end BrickControl
