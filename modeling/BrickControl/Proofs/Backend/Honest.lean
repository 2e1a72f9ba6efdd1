import BrickControl.Proofs.Backend.Journal

/-!
# Honest streams

A rehearsed backend with a stream is honest as long as its reads report what they move. Then the
stream loses at each read exactly the bytes that the journal shows, and no read gives more than it
was asked for.
-/
namespace BrickControl

open Exchange

/-- The turn reports what it moves. -/
def Turn.honest : Turn → Bool
  | .claims _ => false
  | _ => true

namespace Rehearsal

/-- An honest plan stays honest as its turns are used up, and past its end as well. -/
theorem turn_honest {plan : List Turn} (honest : ∀ turn ∈ plan, turn.honest)
    (limit : Option Nat) :
    (turn plan limit).1.honest ∧ ∀ later ∈ (turn plan limit).2, later.honest := by
  cases plan with
  | nil => exact ⟨rfl, by simp [turn]⟩
  | cons first rest => exact List.forall_mem_cons.mp honest

variable {rehearsal : Rehearsal} {bytes : Bytes} (supply : rehearsal.supply = .stream bytes)
  (honest : ∀ turn ∈ rehearsal.readPlan, turn.honest)

include supply honest

/-- An honest read stores what it reports, off the front of the stream and within its room. -/
theorem read_honest (room : Nat) :
    (∃ n, (Backend.read room rehearsal).1 = ⟨bytes.take n, .ok n⟩ ∧ n ≤ room ∧ n ≤ bytes.length ∧
      (Backend.read room rehearsal).2.supply = .stream (bytes.drop n)) ∨
    ∃ e, (Backend.read room rehearsal).1 = ⟨[], .error e⟩ ∧
      (Backend.read room rehearsal).2.supply = .stream bytes := by
  have now := (turn_honest honest rehearsal.readLimit).1
  cases next : turn rehearsal.readPlan rehearsal.readLimit with
  | mk first rest =>
    rw [next] at now
    -- Only a turn that claims another number than it moves could make the report wrong.
    cases first with
    | upTo limit =>
      left
      have most := within_le limit room
      simp only [Backend.read, next, supply, Supply.take, List.length_take]
      refine ⟨min (within limit room) bytes.length, ?_, by omega, by omega, ?_⟩
      · rw [← List.take_eq_take_min]
      · rw [← List.drop_eq_drop_min]
    | claims count => cases now
    | fails e =>
      right
      simp only [Backend.read, next]
      exact ⟨e, rfl, supply⟩

omit supply in
private theorem read_stays_honest (room : Nat) :
    ∀ turn ∈ (Backend.read room rehearsal).2.readPlan, turn.honest := by
  have later := (turn_honest honest rehearsal.readLimit).2
  simp only [Backend.read]
  split
  · exact later
  · exact later
  · exact later

end Rehearsal

namespace Exchange

/-- How much the call took off the stream. -/
def drawn (call : Exchange) : Nat :=
  match call.ask with
  | .read _ => call.count
  | .write _ | .close => 0

def drew : List Exchange → Nat
  | [] => 0
  | call :: rest => call.drawn + drew rest

theorem drew_append (calls : List Exchange) (call : Exchange) :
    drew (calls ++ [call]) = drew calls + call.drawn := by
  -- The sum is taken from the front, the call comes at the end.
  induction calls with
  | nil => simp [drew]
  | cons first calls ih => rw [List.cons_append, drew, drew, ih, Nat.add_assoc]

private theorem drew_reads {calls : List Exchange}
    (reads : ∀ call ∈ calls, ∃ room, call.ask = .read room) : drew calls = moved calls := by
  induction calls with
  | nil => rfl
  | cons call calls ih =>
    obtain ⟨⟨room, same⟩, others⟩ := List.forall_mem_cons.mp reads
    rw [drew, moved_cons, ih others]
    simp only [drawn, same]

end Exchange

/-- The stream has lost the bytes that the reads report, and the backend is honest. -/
structure Draws (bytes : Bytes) (state : Journaled Rehearsal) : Prop where
  supply : state.backend.supply = .stream (bytes.drop (drew state.journal))
  within : drew state.journal ≤ bytes.length
  fits : ∀ call ∈ state.journal, call.Fits
  honest : ∀ turn ∈ state.backend.readPlan, turn.honest

private theorem Draws.grow {bytes : Bytes} {state : Journaled Rehearsal} (draws : Draws bytes state)
    {call : Exchange} {after : Rehearsal}
    (supply : after.supply = .stream (bytes.drop (drew state.journal + call.drawn)))
    (within : drew state.journal + call.drawn ≤ bytes.length) (fits : call.Fits)
    (honest : ∀ turn ∈ after.readPlan, turn.honest) :
    Draws bytes ⟨after, state.journal ++ [call]⟩ where
  supply := by rw [supply, drew_append]
  within := by rwa [drew_append]
  fits := List.forall_mem_append.mpr ⟨draws.fits, List.forall_mem_singleton.mpr fits⟩
  honest := honest

/-- As long as there were reads only, the stream has lost what the calls report together. -/
theorem Draws.moves {bytes : Bytes} {state : Journaled Rehearsal} (draws : Draws bytes state)
    (reads : ∀ call ∈ state.journal, ∃ room, call.ask = .read room) :
    state.backend.supply = .stream (bytes.drop (moved state.journal)) ∧
      moved state.journal ≤ bytes.length := by
  rw [← drew_reads reads]
  exact ⟨draws.supply, draws.within⟩

theorem draws_keeps (bytes : Bytes) : Backend.Keeps (Draws bytes) where
  read := by
    intro room state draws
    have within := draws.within
    have stays := Rehearsal.read_stays_honest draws.honest room
    rw [Journaled.read_run]
    -- What the read reports and what it took off the stream are one number.
    rcases Rehearsal.read_honest draws.supply draws.honest room with
      ⟨n, delivered, most, enough, left⟩ | ⟨e, failed, left⟩
    · rw [List.length_drop] at enough
      rw [List.drop_drop] at left
      rw [delivered]
      refine draws.grow left ?_ ?_ stays
      · simp only [drawn, count_ok]
        omega
      · intro asked same
        cases same
        exact most
    · rw [failed]
      refine draws.grow left within ?_ stays
      intro asked _
      exact Nat.zero_le asked
  write := by
    intro data state draws
    -- A write leaves the stream and the plan of the reads alone.
    have spared : (Backend.write data state.backend).2.supply = state.backend.supply ∧
        (Backend.write data state.backend).2.readPlan = state.backend.readPlan := by
      simp only [Backend.write]
      split
      all_goals exact ⟨rfl, rfl⟩
    rw [Journaled.write_run]
    refine draws.grow (spared.1.trans draws.supply) draws.within ?_ (spared.2 ▸ draws.honest)
    intro asked impossible
    cases impossible

/-- A steady read leaves in the buffer what it reports. -/
theorem Rehearsal.steadyRead_honest {rehearsal : Rehearsal} {bytes : Bytes}
    (supply : rehearsal.supply = .stream bytes)
    (honest : ∀ turn ∈ rehearsal.readPlan, turn.honest) (buffer : Bytes) (n : Nat)
    (got : (Backend.steadyRead buffer rehearsal).1.outcome = .ok n) :
    (Backend.steadyRead buffer rehearsal).1.buffer = Bytes.overlay (bytes.take n) buffer := by
  rw [steadyRead_eq] at got ⊢
  -- Past the interruptions there are the same bytes, and a plan that is honest still.
  have past : ∀ turn ∈ (rehearsal.pastReadInterruptions buffer.length).readPlan, turn.honest :=
    fun turn member => honest turn ((List.dropWhile_sublist _).mem member)
  have supplied : (rehearsal.pastReadInterruptions buffer.length).supply = .stream bytes := supply
  rcases read_honest supplied past buffer.length with ⟨m, delivered, _⟩ | ⟨e, failed, _⟩
  · simp only [Backend.readOnce, delivered] at got ⊢
    cases got
    rfl
  · simp only [Backend.readOnce, failed] at got
    cases got

end BrickControl
