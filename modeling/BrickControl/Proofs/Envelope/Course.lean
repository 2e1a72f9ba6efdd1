import BrickControl.Proofs.Backend.Journal

/-!
# The course of a transfer in pieces

`Moves` follows a loop call by call: how much it has moved, what it asks for next, and how it ends.
The loops of an envelope are transfers of this kind on every patient backend. From the relation
follow the bounds on what is asked, on how many calls there are, and on what is moved in the end.
-/
namespace BrickControl

open Exchange

/-- The calls of a transfer of `total` bytes that asks `asks sofar` when so much has been moved, and
the outcome of the transfer. -/
inductive Moves (asks : Nat → Ask) (total : Nat) :
    Nat → List Exchange → Except TransportError Unit → Prop where
  | done {sofar : Nat} (whole : total ≤ sofar) : Moves asks total sofar [] (.ok ())
  | again {sofar : Nat} {e : TransportError} {rest : List Exchange}
      {outcome : Except TransportError Unit} (more : sofar < total) (interrupted : e.isInterruption)
      (moves : Moves asks total sofar rest outcome) :
      Moves asks total sofar (⟨asks sofar, .error e⟩ :: rest) outcome
  | failed {sofar : Nat} {e : TransportError} (more : sofar < total)
      (final : e.isInterruption = false) :
      Moves asks total sofar [⟨asks sofar, .error e⟩] (.error e)
  | nothing {sofar : Nat} (more : sofar < total) :
      Moves asks total sofar [⟨asks sofar, .ok 0⟩] (.error .disconnected)
  | piece {sofar n : Nat} {rest : List Exchange} {outcome : Except TransportError Unit}
      (more : sofar < total) (moves : Moves asks total (sofar + (n + 1)) rest outcome) :
      Moves asks total sofar (⟨asks sofar, .ok (n + 1)⟩ :: rest) outcome

namespace Moves

variable {asks : Nat → Ask} {total sofar : Nat} {calls front back : List Exchange}
  {call : Exchange} {outcome : Except TransportError Unit}

section

variable {e : TransportError} {n : Nat} {tries rest : List Exchange} (more : sofar < total)

include more

/-- The tries of one steady call go in front. -/
theorem of_settles {reported : Except TransportError Nat}
    (settles : Settles (asks sofar) reported tries)
    (ended : Moves asks total sofar (⟨asks sofar, reported⟩ :: rest) outcome) :
    Moves asks total sofar (tries ++ rest) outcome := by
  induction settles with
  | once => exact ended
  | again interrupted settles ih => exact .again more interrupted ih

theorem of_failed (settles : Settles (asks sofar) (.error e) tries)
    (final : e.isInterruption = false) : Moves asks total sofar tries (.error e) := by
  have moves := of_settles more settles (.failed more final)
  rwa [List.append_nil] at moves

theorem of_nothing (settles : Settles (asks sofar) (.ok 0) tries) :
    Moves asks total sofar tries (.error .disconnected) := by
  have moves := of_settles more settles (.nothing more)
  rwa [List.append_nil] at moves

theorem of_piece (settles : Settles (asks sofar) (.ok (n + 1)) tries)
    (moves : Moves asks total (sofar + (n + 1)) rest outcome) :
    Moves asks total sofar (tries ++ rest) outcome :=
  of_settles more settles (.piece more moves)

end

private theorem next (moves : Moves asks total sofar calls outcome) (more : sofar < total) :
    ∃ first others, calls = first :: others ∧ first.ask = asks sofar := by
  cases moves with
  | done whole => omega
  | again => exact ⟨_, _, rfl, rfl⟩
  | failed => exact ⟨_, _, rfl, rfl⟩
  | nothing => exact ⟨_, _, rfl, rfl⟩
  | piece => exact ⟨_, _, rfl, rfl⟩

/-- What is asked depends on what the earlier calls moved, and there is always something left. -/
theorem asked (moves : Moves asks total sofar (front ++ call :: back) outcome) :
    call.ask = asks (sofar + moved front) ∧ sofar + moved front < total := by
  induction front generalizing sofar with
  | nil =>
    cases moves with
    | again more => exact ⟨rfl, more⟩
    | failed more => exact ⟨rfl, more⟩
    | nothing more => exact ⟨rfl, more⟩
    | piece more => exact ⟨rfl, more⟩
  | cons first front ih =>
    rw [moved_cons, ← Nat.add_assoc]
    -- Behind the first call there is at least the one in question.
    cases moved : front ++ call :: back with
    | nil => simp at moved
    | cons second others =>
      rw [List.cons_append, moved] at moves
      rw [moved] at ih
      cases moves with
      | again more interrupted moves => exact ih moves
      | piece more moves => exact ih moves

/-- Interrupted calls are repeated, and the first other failure is the end. -/
theorem heeds (moves : Moves asks total sofar calls outcome) :
    Heeds fault? interrupted (failure? outcome) calls := by
  induction moves with
  | done => trivial
  | again more again moves ih => exact ⟨by simp [again], fun _ => moves.next more, ih⟩
  | failed more final => exact .single (by simp [final, failure?]) final
  | nothing more => exact .single (by simp [failure?]) rfl
  | piece more moves ih => exact ⟨by simp, by simp, ih⟩

/-- A transfer succeeds exactly if none of its calls has a fault. -/
theorem ok_iff_passes (moves : Moves asks total sofar calls outcome) :
    outcome = .ok () ↔ ∀ call ∈ calls, call.fault? = none := by
  induction moves with
  | done => simp
  | again more again moves ih => simpa [again] using ih
  | failed more final => simp [final]
  | nothing more => simp
  | piece more moves ih => simpa using ih

/-- A transfer succeeds exactly if all bytes were moved. -/
theorem ok_iff_whole (moves : Moves asks total sofar calls outcome) :
    outcome = .ok () ↔ total ≤ sofar + moved calls := by
  induction moves with
  | done whole => simpa using whole
  | again more again moves ih => simpa using ih
  | failed more final => simpa using more
  | nothing more => simpa using more
  | piece more moves ih => simpa [Nat.add_assoc] using ih

/-- A transfer that fails does so at a call with this fault. -/
theorem error_fault {e : TransportError} (moves : Moves asks total sofar calls (.error e)) :
    ∃ call ∈ calls, call.fault? = some e := by
  generalize failure : (Except.error e : Except TransportError Unit) = outcome at moves
  induction moves with
  | done => cases failure
  | again more again moves ih => exact (ih failure).imp fun _ => And.imp_left (.tail _)
  | failed more final =>
    cases failure
    exact ⟨_, List.mem_singleton_self _, by simp [final]⟩
  | nothing more =>
    cases failure
    exact ⟨_, List.mem_singleton_self _, rfl⟩
  | piece more moves ih => exact (ih failure).imp fun _ => And.imp_left (.tail _)

/-- Each call that is not cut short moves a byte or is the last one. -/
theorem settled_le (moves : Moves asks total sofar calls outcome) :
    calls.countP (fun call => !call.interrupted) ≤ total - sofar := by
  induction moves with
  | done => simp
  | again more again moves ih => simpa [again] using ih
  | failed more final => simp [final]; omega
  | nothing more => simp; omega
  | piece more moves ih =>
    -- A piece counts, and it moves a byte at least.
    rw [List.countP_cons_of_pos (by simp)]
    omega

/-- What is written in pieces is taken from the front of the whole. -/
theorem taken_eq {whole : Bytes}
    (moves : Moves (fun sofar => .write (whole.drop sofar)) total sofar calls outcome) :
    calls.flatMap taken = (whole.drop sofar).take (moved calls) := by
  induction moves with
  | done => simp
  | again more again moves ih => simpa [taken] using ih
  | failed more final => simp [taken]
  | nothing more => simp [taken]
  | @piece sofar n rest outcome more moves ih =>
    rw [moved_cons, List.flatMap_cons, ih, ← List.drop_drop]
    exact List.take_add.symm

/-- What is asked at each point of the transfer is asked by its calls. -/
theorem all_ask {p : Ask → Prop} (holds : ∀ sofar, p (asks sofar))
    (moves : Moves asks total sofar calls outcome) : ∀ call ∈ calls, p call.ask := by
  induction moves with
  | done => simp
  | again more again moves ih => exact List.forall_mem_cons.mpr ⟨holds _, ih⟩
  | failed => simpa using holds _
  | nothing => simpa using holds _
  | piece more moves ih => exact List.forall_mem_cons.mpr ⟨holds _, ih⟩

theorem reads {room : Nat → Nat}
    (moves : Moves (fun sofar => .read (room sofar)) total sofar calls outcome) :
    ∀ call ∈ calls, ∃ asked, call.ask = .read asked :=
  moves.all_ask (p := fun ask => ∃ asked, ask = .read asked) fun _ => ⟨_, rfl⟩

theorem writes {offer : Nat → Bytes}
    (moves : Moves (fun sofar => .write (offer sofar)) total sofar calls outcome) :
    ∀ call ∈ calls, ∃ offered, call.ask = .write offered :=
  moves.all_ask (p := fun ask => ∃ offered, ask = .write offered) fun _ => ⟨_, rfl⟩

end Moves

namespace Envelope

open Backend

section

variable {σ : Type} [Backend σ] {body : Bytes}

/-- A body that is too long is refused before the first call. -/
theorem send_of_long (long : maxBody < body.length) (state : σ) :
    send body state = (.error (.bodyTooLarge body.length maxBody), state) := by
  simp only [send, encode, gt_iff_lt, if_pos long]

/-- A body that is not too long is sent as its envelope, and reported with its own length. -/
theorem send_of_small (small : body.length ≤ maxBody) (state : σ) :
    send body state = (((sendAll (wrap body) state).1.mapError .transport).map fun _ => body.length,
      (sendAll (wrap body) state).2) := by
  simp only [send, encode_eq_wrap body small]
  rcases sendAll (wrap body) state with ⟨_ | _, after⟩
  · rfl
  · rfl

end

variable {σ : Type} [Backend σ] [Patient σ]

/-- Sending is a transfer of the whole that offers at each call what is left of it. -/
theorem sendAll_moves (whole rest : Bytes) (sofar : Nat) (left : rest = whole.drop sofar)
    (state : Journaled σ) :
    ∃ calls, (sendAll rest state).2.journal = state.journal ++ calls ∧
      Moves (fun sofar => .write (whole.drop sofar)) whole.length sofar calls
        (sendAll rest state).1 := by
  induction rest, state using sendAll.induct generalizing sofar with
  | case1 state =>
    rw [sendAll, dif_pos rfl]
    exact ⟨[], (List.append_nil _).symm, .done (List.drop_eq_nil_iff.mp left.symm)⟩
  | case2 rest state more e after failed =>
    -- A patient backend does not end in an interruption, so the failure is final.
    have final := Patient.write rest state e (by rw [failed])
    obtain ⟨tries, grown, settles⟩ := Journaled.steadyWrite_settles rest state
    rw [failed] at grown settles
    rw [sendAll, dif_neg more, failed]
    rw [left, List.drop_eq_nil_iff, Nat.not_le] at more
    subst left
    exact ⟨tries, grown, .of_failed more settles final⟩
  | case3 rest state more after nothing =>
    obtain ⟨tries, grown, settles⟩ := Journaled.steadyWrite_settles rest state
    rw [nothing] at grown settles
    rw [sendAll, dif_neg more, nothing]
    rw [left, List.drop_eq_nil_iff, Nat.not_le] at more
    subst left
    exact ⟨tries, grown, .of_nothing more settles⟩
  | case4 rest state more n after wrote ih =>
    obtain ⟨tries, grown, settles⟩ := Journaled.steadyWrite_settles rest state
    rw [wrote] at grown settles
    rw [sendAll_step more wrote]
    -- What is left is the whole from a later point on.
    obtain ⟨calls, longer, moves⟩ := ih (sofar + (n + 1)) (by rw [left, List.drop_drop])
    rw [left, List.drop_eq_nil_iff, Nat.not_le] at more
    subst left
    exact ⟨tries ++ calls, by rw [longer, grown, List.append_assoc], .of_piece more settles moves⟩

/-- Filling a buffer is a transfer of its size that asks at each call for what is missing. -/
theorem fillAll_moves (total : Nat) (buffer : Bytes) (sofar : Nat)
    (left : buffer.length = total - sofar) (state : Journaled σ) :
    ∃ calls, (fillAll buffer state).2.journal = state.journal ++ calls ∧
      Moves (fun sofar => .read (total - sofar)) total sofar calls (fillAll buffer state).1.1 := by
  have unfinished {buffer : Bytes} {sofar : Nat} (more : buffer ≠ [])
      (left : buffer.length = total - sofar) : sofar < total := by
    have := List.length_pos_iff.mpr more
    omega
  induction buffer, state using fillAll.induct generalizing sofar with
  | case1 state =>
    rw [fillAll, dif_pos rfl]
    have whole : total ≤ sofar := Nat.sub_eq_zero_iff_le.mp left.symm
    exact ⟨[], (List.append_nil _).symm, .done whole⟩
  | case2 buffer state more e held after failed =>
    have final := Patient.read buffer state e (by rw [failed])
    obtain ⟨tries, grown, settles⟩ := Journaled.steadyRead_settles buffer state
    rw [failed, left] at settles
    rw [failed] at grown
    rw [fillAll_failed more failed]
    exact ⟨tries, grown, .of_failed (unfinished more left) settles final⟩
  | case3 buffer state more held after nothing =>
    obtain ⟨tries, grown, settles⟩ := Journaled.steadyRead_settles buffer state
    rw [nothing, left] at settles
    rw [nothing] at grown
    rw [fillAll_nothing more nothing]
    exact ⟨tries, grown, .of_nothing (unfinished more left) settles⟩
  | case4 buffer state more n held after got outcome rest last filled ih =>
    -- The buffer keeps its size, so what is missing is what is left of it.
    have size := Backend.length_steadyRead buffer state
    obtain ⟨tries, grown, settles⟩ := Journaled.steadyRead_settles buffer state
    rw [got, left] at settles
    rw [got] at grown size
    rw [fillAll_step more got]
    obtain ⟨calls, longer, moves⟩ := ih (sofar + (n + 1)) (by rw [List.length_drop, size]; omega)
    exact ⟨tries ++ calls, by rw [longer, grown, List.append_assoc],
      .of_piece (unfinished more left) settles moves⟩

/-- Draining is a transfer that asks at each call for what remains, or for a scratch buffer full of
it. -/
theorem drain_moves (total remaining sofar : Nat) (left : remaining = total - sofar)
    (state : Journaled σ) :
    ∃ calls, (drain remaining state).2.journal = state.journal ++ calls ∧
      Moves (fun sofar => .read (min (total - sofar) drainSize)) total sofar calls
        (drain remaining state).1 := by
  induction remaining, state using drain.induct generalizing sofar with
  | case1 state =>
    rw [drain, if_pos rfl]
    exact ⟨[], (List.append_nil _).symm, .done (Nat.sub_eq_zero_iff_le.mp left.symm)⟩
  | case2 remaining state more e held after failed =>
    have final := Patient.read _ state e (by rw [failed])
    obtain ⟨tries, grown, settles⟩ := Journaled.steadyRead_settles _ state
    rw [failed, List.length_replicate, left] at settles
    rw [failed] at grown
    rw [drain, if_neg more, failed]
    exact ⟨tries, grown, .of_failed (by omega) settles final⟩
  | case3 remaining state more held after nothing =>
    obtain ⟨tries, grown, settles⟩ := Journaled.steadyRead_settles _ state
    rw [nothing, List.length_replicate, left] at settles
    rw [nothing] at grown
    rw [drain, if_neg more, nothing]
    exact ⟨tries, grown, .of_nothing (by omega) settles⟩
  | case4 remaining state more n held after got ih =>
    obtain ⟨tries, grown, settles⟩ := Journaled.steadyRead_settles _ state
    rw [got, List.length_replicate, left] at settles
    rw [got] at grown
    rw [drain_step more got]
    obtain ⟨calls, longer, moves⟩ := ih (sofar + (n + 1)) (by omega)
    exact ⟨tries ++ calls, by rw [longer, grown, List.append_assoc],
      .of_piece (by omega) settles moves⟩

end Envelope
end BrickControl
