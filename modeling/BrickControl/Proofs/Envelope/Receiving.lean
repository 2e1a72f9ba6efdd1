import BrickControl.Proofs.Backend.Honest
import BrickControl.Proofs.Envelope.Course
import Mathlib.Data.List.TakeDrop

/-!
# What a receive takes off a stream

A receive makes one steady read of the length field and then, where both of its bytes came, two
transfers in pieces: the front of the body goes to the caller's buffer and what has no room there is
thrown away. Each of its calls asks for bytes of the envelope at hand and for no more than are
missing, so the next envelope is left whole on the stream.
-/
namespace BrickControl

open Exchange

/-- The calls that take a body of `length` bytes off the stream, of which `room` bytes are kept. The
rest is drained once the buffer is full. -/
inductive TakesBody (length room : Nat) : List Exchange → Except TransportError Unit → Prop where
  | stopped {calls : List Exchange} {e : TransportError}
      (fills : Moves (fun sofar => .read (min room length - sofar)) (min room length) 0 calls
        (.error e)) : TakesBody length room calls (.error e)
  | filled {filled drained : List Exchange} {outcome : Except TransportError Unit}
      (fills : Moves (fun sofar => .read (min room length - sofar)) (min room length) 0 filled
        (.ok ()))
      (drains : Moves (fun sofar => .read (min (length - room - sofar) Envelope.drainSize))
        (length - room) 0 drained outcome) : TakesBody length room (filled ++ drained) outcome

namespace Moves

variable {asks : Nat → Ask} {room : Nat → Nat} {total sofar : Nat} {calls : List Exchange}
  {outcome : Except TransportError Unit}

theorem moved_le (moves : Moves (fun sofar => .read (room sofar)) total sofar calls outcome)
    (small : ∀ sofar, room sofar ≤ total - sofar) (fits : ∀ call ∈ calls, call.Fits) :
    moved calls ≤ total - sofar := by
  induction moves with
  | done => simp
  | again more again moves ih =>
    rw [List.forall_mem_cons] at fits
    simpa using ih fits.2
  | failed => simp
  | nothing => simp
  | @piece sofar n rest outcome more moves ih =>
    rw [List.forall_mem_cons] at fits
    have piece : n + 1 ≤ room sofar := fits.1 _ rfl
    have others := ih fits.2
    have within := small sofar
    rw [moved_cons, count_ok]
    omega

end Moves

namespace TakesBody

variable {length room : Nat} {calls : List Exchange} {outcome : Except TransportError Unit}

theorem reads (takes : TakesBody length room calls outcome) :
    ∀ call ∈ calls, ∃ asked, call.ask = .read asked := by
  cases takes with
  | stopped fills => exact fills.reads
  | filled fills drains => exact List.forall_mem_append.mpr ⟨fills.reads, drains.reads⟩

theorem heeds (takes : TakesBody length room calls outcome) :
    Heeds fault? interrupted (failure? outcome) calls := by
  cases takes with
  | stopped fills => exact fills.heeds
  | filled fills drains => exact .append fills.heeds drains.heeds

/-- A body that is not taken whole met a call with this fault. -/
theorem error_fault {e : TransportError} (takes : TakesBody length room calls (.error e)) :
    ∃ call ∈ calls, call.fault? = some e := by
  cases takes with
  | stopped fills => exact fills.error_fault
  | filled fills drains =>
    obtain ⟨call, member, fault⟩ := drains.error_fault
    exact ⟨call, List.mem_append_right _ member, fault⟩

/-- Not counting interruptions there is at most one call for each byte of the body. -/
private theorem settled_le (takes : TakesBody length room calls outcome) :
    calls.countP (fun call => !call.interrupted) ≤ length := by
  cases takes with
  | stopped fills =>
    have few := fills.settled_le
    omega
  | filled fills drains =>
    have few := fills.settled_le
    have few' := drains.settled_le
    rw [List.countP_append]
    omega

section

variable (takes : TakesBody length room calls outcome) (fits : ∀ call ∈ calls, call.Fits)

include takes fits

theorem moved_le : moved calls ≤ length := by
  cases takes with
  | stopped fills =>
    have most := fills.moved_le (fun _ => Nat.le_refl _) fits
    omega
  | filled fills drains =>
    rw [List.forall_mem_append] at fits
    have most := fills.moved_le (fun _ => Nat.le_refl _) fits.1
    have most' := drains.moved_le (fun _ => Nat.min_le_left ..) fits.2
    rw [moved_append]
    omega

private theorem moved_eq (whole : outcome = .ok ()) : moved calls = length := by
  have most := takes.moved_le fits
  cases takes with
  | stopped => cases whole
  | filled fills drains =>
    have least := fills.ok_iff_whole.mp rfl
    have least' := drains.ok_iff_whole.mp whole
    rw [moved_append] at most ⊢
    omega

/-- Each call asks for some bytes of the body that are still missing. -/
theorem asked {front back : List Exchange} {call : Exchange}
    (parts : calls = front ++ call :: back) :
    ∃ asked, call.ask = .read asked ∧ 0 < asked ∧ moved front + asked ≤ length := by
  cases takes with
  | stopped fills =>
    rw [parts] at fills
    obtain ⟨same, more⟩ := fills.asked
    exact ⟨_, same, by omega, by omega⟩
  | filled fills drains =>
    rw [List.forall_mem_append] at fits
    have most := fills.moved_le (fun _ => Nat.le_refl _) fits.1
    rcases append_eq_append_cons parts with ⟨late, rfl, _⟩ | ⟨early, rfl, rfl⟩
    · obtain ⟨same, more⟩ := fills.asked
      exact ⟨_, same, by omega, by omega⟩
    · -- The call drains: all that has room was read before.
      obtain ⟨same, more⟩ := drains.asked
      rw [moved_append]
      refine ⟨_, same, ?_, ?_⟩
      · simp only [Envelope.drainSize]
        omega
      · omega

end

end TakesBody

namespace Envelope

open Backend

section

variable {σ : Type} [Backend σ]

/-- Filling a buffer does not change its size, however it ends. -/
theorem length_fillAll (buffer : Bytes) (state : σ) :
    (fillAll buffer state).1.2.length = buffer.length := by
  induction buffer, state using fillAll.induct with
  | case1 state => rw [fillAll, dif_pos rfl]
  | case2 buffer state more e held after failed =>
    have same := length_steadyRead buffer state
    rw [failed] at same
    rwa [fillAll_failed more failed]
  | case3 buffer state more held after nothing =>
    have same := length_steadyRead buffer state
    rw [nothing] at same
    rwa [fillAll_nothing more nothing]
  | case4 buffer state more n held after got outcome rest last filled ih =>
    have same := length_steadyRead buffer state
    -- The front of the buffer is cut off and comes back, so the size is what it was.
    rw [got] at same
    rw [fillAll_step more got, List.length_append, ih, ← List.length_append, List.take_append_drop]
    exact same

/-- What a read of a length field says. -/
def lengthOf (field : Filled TransportError) : Except FrameError Nat :=
  match field.outcome with
  | .error e => .error (.transport e)
  | .ok 0 => .error (.transport .disconnected)
  | .ok (n + 1) =>
    if n + 1 = headerSize then .ok field.buffer.value else .error (.shortHeader (n + 1))

theorem receiveHeader_eq (state : σ) :
    receiveHeader state = (lengthOf (steadyRead (List.replicate headerSize 0) state).1,
      (steadyRead (List.replicate headerSize 0) state).2) := by
  simp only [receiveHeader, lengthOf]
  rcases steadyRead (List.replicate headerSize 0) state with ⟨⟨e | (_ | n), field⟩, after⟩
  · rfl
  · rfl
  · simp only [Nat.add_one_ne_zero, if_false]
    split
    · rfl
    · rfl

/-- Without a length the buffer stays as it was, and nothing else is read. -/
theorem receive_headless {buffer : Bytes} {state after : σ} {e : FrameError}
    (headed : receiveHeader state = (.error e, after)) :
    receive buffer state = (⟨.error e, buffer⟩, after) := by
  simp only [receive, headed]

/-- Behind the length field the body is taken off the stream, and no byte of the buffer behind what
has room in it is touched. -/
theorem receive_body [Patient σ] (buffer : Bytes) {state after : Journaled σ} {length : Nat}
    (headed : receiveHeader state = (.ok length, after)) :
    ∃ calls outcome, (receive buffer state).2.journal = after.journal ++ calls ∧
      TakesBody length buffer.length calls outcome ∧
      (receive buffer state).1.outcome =
        (outcome.mapError .transport).map (fun _ => min length buffer.length) ∧
      (receive buffer state).1.buffer.drop (min length buffer.length) =
        buffer.drop (min length buffer.length) := by
  obtain ⟨filled, grown, fills⟩ := fillAll_moves (min buffer.length length) (buffer.take length) 0
    (by rw [List.length_take, Nat.min_comm, Nat.sub_zero]) after
  have size := length_fillAll (buffer.take length) after
  simp only [receive, headed]
  cases filling : fillAll (buffer.take length) after with
  | mk ended between =>
    obtain ⟨outcome, body⟩ := ended
    rw [filling] at grown fills size
    -- As much of the buffer was filled as the body and the buffer both have.
    have behind : (body ++ buffer.drop length).drop (min length buffer.length) =
        buffer.drop (min length buffer.length) := by
      rw [List.length_take] at size
      rw [List.drop_left' size]
      rcases Nat.le_total length buffer.length with small | large
      · rw [Nat.min_eq_left small]
      · rw [Nat.min_eq_right large, List.drop_length, List.drop_of_length_le large]
    cases outcome with
    | error e => exact ⟨filled, .error e, grown, .stopped fills, rfl, behind⟩
    | ok =>
      obtain ⟨drained, longer, drains⟩ :=
        drain_moves (length - buffer.length) (length - buffer.length) 0 (Nat.sub_zero _).symm
          between
      dsimp only
      cases draining : drain (length - buffer.length) between with
      | mk outcome last =>
        rw [draining] at longer drains
        refine ⟨filled ++ drained, outcome, ?_, .filled fills drains, ?_, ?_⟩
        · cases outcome with
          | error e => rw [← List.append_assoc, ← grown, ← longer]
          | ok => rw [← List.append_assoc, ← grown, ← longer]
        · cases outcome with
          | error e => rfl
          | ok => rfl
        · cases outcome with
          | error e => exact behind
          | ok => exact behind

end

/-! ### Honest streams -/

/-- An honest stream gives at most the length field, and only a whole one is used. -/
theorem lengthOf_honest {bytes : Bytes} {start : Journaled Rehearsal} (draws : Draws bytes start)
    (fresh : start.journal = []) :
    let read := steadyRead (List.replicate headerSize 0) start
    ∃ cut reported, read.2.journal = cut ++ [⟨.read 2, reported⟩] ∧
      (∀ call ∈ cut, call.ask = .read 2 ∧ call.interrupted) ∧
      interrupted ⟨.read 2, reported⟩ = false ∧
      ((∃ e, reported = .error e ∧ lengthOf read.1 = .error (.transport e)) ∨
        (reported = .ok 0 ∧ lengthOf read.1 = .error (.transport .disconnected)) ∨
        (reported = .ok 1 ∧ lengthOf read.1 = .error (.shortHeader 1)) ∨
        (reported = .ok 2 ∧ lengthOf read.1 = .ok (Bytes.value (bytes.take 2)))) := by
  intro read
  have supply := draws.supply
  have after : Draws bytes read.2 :=
    ((draws_keeps bytes).alike.steadyRead _ start start ⟨rfl, draws⟩).2.2
  have final := Patient.read (List.replicate headerSize 0) start
  obtain ⟨same, _⟩ := Journaled.keeps_alike.steadyRead (List.replicate headerSize 0) start _
    start.keeps_self
  rw [fresh, drew, List.drop_zero] at supply
  have held := Rehearsal.steadyRead_honest supply draws.honest (List.replicate headerSize 0)
  rw [← same] at held
  obtain ⟨tries, grown, settles⟩ := Journaled.steadyRead_settles (List.replicate headerSize 0) start
  obtain ⟨cut, parts, all⟩ := settles.split
  rw [fresh, List.nil_append, parts] at grown
  change read.2.journal = cut ++ [⟨.read 2, read.1.outcome⟩] at grown
  change ∀ e, read.1.outcome = .error e → _ at final
  change ∀ n, read.1.outcome = .ok n → read.1.buffer = _ at held
  refine ⟨cut, read.1.outcome, grown, all, ?_, ?_⟩
  · cases reported : read.1.outcome with
    | ok n => rfl
    | error e => exact final e reported
  · cases reported : read.1.outcome with
    | error e => exact .inl ⟨e, rfl, by simp only [lengthOf, reported]⟩
    | ok n =>
      have fits := after.fits ⟨.read 2, read.1.outcome⟩
        (by rw [grown]; exact List.mem_append_right _ (List.mem_singleton_self _))
      rw [reported] at fits
      have few : n ≤ 2 := fits 2 rfl
      -- An honest read gives no more than the two bytes it was asked for.
      obtain rfl | rfl | rfl : n = 0 ∨ n = 1 ∨ n = 2 := by omega
      · exact .inr (.inl ⟨rfl, by simp only [lengthOf, reported]⟩)
      · exact .inr (.inr (.inl ⟨rfl, by simp [lengthOf, reported, headerSize]⟩))
      · -- Two bytes were there to be read.
        have enough := after.within
        rw [grown, drew_append, reported] at enough
        have whole : (bytes.take 2).length = 2 := by
          rw [List.length_take]
          simp only [drawn, count_ok] at enough
          omega
        have field := held 2 reported
        rw [Bytes.overlay_of_length_eq (by rw [whole, List.length_replicate]; rfl)] at field
        exact .inr (.inr (.inr ⟨rfl, by simp [lengthOf, reported, headerSize, field]⟩))

/-- The calls behind a length field ask for the body and for nothing else. -/
theorem receive_body_honest {bytes buffer : Bytes} {start after : Journaled Rehearsal}
    {length : Nat} (draws : Draws bytes (receive buffer start).2)
    (headed : receiveHeader start = (.ok length, after)) :
    ∃ rest, (receive buffer start).2.journal = after.journal ++ rest ∧
      (∀ call ∈ rest, ∃ room, call.ask = .read room) ∧
      rest.countP (fun call => !call.interrupted) ≤ length ∧
      (∀ front call back, rest = front ++ call :: back →
        ∃ asked, call.ask = .read asked ∧ 0 < asked ∧ moved front + asked ≤ length) ∧
      moved (receive buffer start).2.journal ≤ moved after.journal + length ∧
      ((∃ n, (receive buffer start).1.outcome = .ok n ∧ n = min length buffer.length ∧
        moved (receive buffer start).2.journal = moved after.journal + length ∧
        (receive buffer start).1.buffer.drop n = buffer.drop n) ∨
        ∃ cause, (receive buffer start).1.outcome = .error (.transport cause)) := by
  obtain ⟨rest, outcome, grown, takes, result, untouched⟩ := receive_body buffer headed
  have fits : ∀ call ∈ rest, call.Fits := by
    intro call member
    refine draws.fits call ?_
    rw [grown]
    exact List.mem_append_right _ member
  have most := takes.moved_le fits
  refine ⟨rest, grown, takes.reads, takes.settled_le, fun _ _ _ => takes.asked fits, ?_, ?_⟩
  · rw [grown, moved_append]
    omega
  · rw [result]
    cases outcome with
    | error e => exact .inr ⟨e, rfl⟩
    | ok =>
      exact .inl ⟨_, rfl, rfl, by rw [grown, moved_append, takes.moved_eq fits rfl], untouched⟩

/-- A receive takes one envelope off the stream at most, and asks for no byte behind it. Where the
length field came whole, a receive that succeeds took exactly this envelope and left the buffer
behind what it reports alone; one that failed on the way took no more. Without a whole length field
nothing else is read. There is at most one read for the field and one for each byte of the body, not
counting those that a signal cut short. -/
theorem receive_takes_envelope (bytes buffer : Bytes) (backend : Rehearsal)
    (supply : backend.supply = .stream bytes) (honest : ∀ turn ∈ backend.readPlan, turn.honest) :
    let length := Bytes.value (bytes.take 2)
    let ended := receive buffer (⟨backend, []⟩ : Journaled Rehearsal)
    let calls := ended.2.journal
    ended.2.backend.supply = .stream (bytes.drop (moved calls)) ∧ moved calls ≤ bytes.length ∧
    calls.countP (fun call => !call.interrupted) ≤ 1 + length ∧
    ∃ cut field rest, calls = cut ++ field :: rest ∧
      (∀ call ∈ cut, call.ask = .read 2 ∧ call.interrupted) ∧
      field.ask = .read 2 ∧ field.interrupted = false ∧
      ((∃ e, field.reported = .error e ∧ rest = [] ∧
          ended.1 = ⟨.error (.transport e), buffer⟩) ∨
        (field.reported = .ok 0 ∧ rest = [] ∧
          ended.1 = ⟨.error (.transport .disconnected), buffer⟩) ∨
        (field.reported = .ok 1 ∧ rest = [] ∧ moved calls = 1 ∧
          ended.1 = ⟨.error (.shortHeader 1), buffer⟩) ∨
        (field.reported = .ok 2 ∧
          (∀ front call back, rest = front ++ call :: back →
            ∃ asked, call.ask = .read asked ∧ 0 < asked ∧ moved front + asked ≤ length) ∧
          moved calls ≤ 2 + length ∧
          ((∃ n, ended.1.outcome = .ok n ∧ n = min length buffer.length ∧
            moved calls = 2 + length ∧ ended.1.buffer.drop n = buffer.drop n) ∨
            ∃ cause, ended.1.outcome = .error (.transport cause)))) := by
  intro length ended calls
  let start : Journaled Rehearsal := ⟨backend, []⟩
  have begins : Draws bytes start :=
    ⟨by simpa [start, drew] using supply, Nat.zero_le _, by simp [start], honest⟩
  have draws : Draws bytes ended.2 :=
    (receive_alike (draws_keeps bytes).alike buffer start start ⟨rfl, begins⟩).2.2
  have headed := receiveHeader_eq start
  obtain ⟨cut, reported, journal, all, final, field⟩ := lengthOf_honest begins rfl
  generalize steadyRead (List.replicate headerSize 0) start = read at headed journal field
  have moved_cut := moved_interrupted fun call member => (all call member).2
  -- What follows from the calls behind the length field.
  suffices course : ∃ rest, calls = cut ++ ⟨.read 2, reported⟩ :: rest ∧
      (∀ call ∈ rest, ∃ room, call.ask = .read room) ∧
      rest.countP (fun call => !call.interrupted) ≤ length ∧ _ by
    obtain ⟨rest, parts, reads, settled, ending⟩ := course
    obtain ⟨left, within⟩ := draws.moves (by
      intro call member
      change call ∈ calls at member
      rw [parts, List.mem_append, List.mem_cons] at member
      rcases member with early | rfl | late
      · exact ⟨2, (all call early).1⟩
      · exact ⟨2, rfl⟩
      · exact reads call late)
    refine ⟨left, within, ?_, cut, _, rest, parts, all, rfl, final, ending⟩
    rw [parts, settled_tries (fun call member => (all call member).2) final]
    omega
  have headless {e : FrameError} (failed : lengthOf read.1 = .error e) :
      calls = cut ++ [⟨.read 2, reported⟩] ∧ ended.1 = ⟨.error e, buffer⟩ := by
    rw [failed] at headed
    have whole : ended = (⟨.error e, buffer⟩, read.2) := receive_headless headed
    simp only [calls, whole]
    exact ⟨journal, trivial⟩
  -- Only a whole length field lets the receive go on.
  rcases field with ⟨e, rfl, field⟩ | ⟨rfl, field⟩ | ⟨rfl, field⟩ | ⟨rfl, field⟩
  · obtain ⟨parts, ending⟩ := headless field
    exact ⟨[], parts, by simp, by simp, .inl ⟨e, rfl, rfl, ending⟩⟩
  · obtain ⟨parts, ending⟩ := headless field
    exact ⟨[], parts, by simp, by simp, .inr (.inl ⟨rfl, rfl, ending⟩)⟩
  · obtain ⟨parts, ending⟩ := headless field
    exact ⟨[], parts, by simp, by simp,
      .inr (.inr (.inl ⟨rfl, rfl, by simp [parts, moved_cut], ending⟩))⟩
  · rw [field] at headed
    obtain ⟨rest, grown, reads, settled, asked, most, ending⟩ := receive_body_honest draws headed
    have parts : calls = cut ++ ⟨.read 2, .ok 2⟩ :: rest := by
      rw [journal, List.append_assoc] at grown
      exact grown
    have two : moved read.2.journal = 2 := by simp [journal, moved_cut]
    rw [two] at most ending
    exact ⟨rest, parts, reads, settled, .inr (.inr (.inr ⟨rfl, asked, most, ending⟩))⟩

/-- A body of five bytes with room for two; the next envelope is left alone. -/
theorem receive_takes_envelope_drained :
    let cut : Turn := .fails (.io (.bare .interrupted))
    let backend : Rehearsal :=
      { supply := .stream [5, 0, 1, 2, 3, 4, 5, 1, 0, 9]
        readPlan := [cut, .upTo none, .upTo (some 1), cut, .upTo none, .upTo (some 1)] }
    let ended := receive [7, 7] (⟨backend, []⟩ : Journaled Rehearsal)
    backend.supply = .stream [5, 0, 1, 2, 3, 4, 5, 1, 0, 9] ∧
    (∀ turn ∈ backend.readPlan, turn.honest) ∧
    ended.1.outcome = .ok 2 ∧ ended.2.backend.supply = .stream [1, 0, 9] ∧
    ended.2.journal.countP (fun call => !call.interrupted) ≤ 1 + 5 := by
  intro cut backend ended
  have honest : ∀ turn ∈ backend.readPlan, turn.honest := by decide
  obtain ⟨left, _, settled, _⟩ :=
    receive_takes_envelope [5, 0, 1, 2, 3, 4, 5, 1, 0, 9] [7, 7] backend rfl honest
  have whole : moved ended.2.journal = 7 := by decide +kernel
  exact ⟨rfl, honest, by decide +kernel, by rw [left, whole]; rfl, settled⟩

end Envelope
end BrickControl
