import BrickControl.Proofs.Connection.Replies
import BrickControl.Proofs.Connection.Uses
import BrickControl.Proofs.Radio.Events
import Mathlib.Algebra.Group.Nat.Defs

/-!
# Loops that trust no count

A backend may report any count, also one that is larger than the room it was given. The loops over
an envelope keep an index, which these counts move; the index is checked before each slice, and a
slice or a number that is out of range has no result here. As long as counts are below `2 ^ 63`
there is always a result, and it is the one of the loops without an index.
-/
namespace BrickControl

/-- The bytes of a buffer with others put over those from an index on, as far as there is room. -/
def Bytes.putAt (buffer : Bytes) (offset : Nat) (data : Bytes) : Bytes :=
  buffer.take offset ++ overlay data (buffer.drop offset)

@[simp] theorem Bytes.length_putAt (buffer : Bytes) (offset : Nat) (data : Bytes) :
    (buffer.putAt offset data).length = buffer.length := by
  rw [putAt, List.length_append, length_overlay, ← List.length_append, List.take_append_drop]

private theorem Bytes.putAt_front {buffer data : Bytes} {n : Nat} (size : data.length = n)
    (fits : n ≤ buffer.length) : buffer.putAt 0 data = data ++ buffer.drop n := by
  subst size
  rw [putAt, List.take_zero, List.nil_append, List.drop_zero, overlay, List.take_of_length_le fits]

namespace Backend

variable {σ : Type} [Backend σ]

/-- Where the invariant holds, reads and writes keep it, and they report counts below `2 ^ 63`: no
piece of memory is larger than that, but a count may well be larger than the piece at hand. -/
structure Bounded (I : σ → Prop) : Prop extends Keeps I where
  readCount : ∀ room s, room < 2 ^ 63 → I s →
    ∀ n, (Backend.read room s).1.outcome = .ok n → n < 2 ^ 63
  writeCount : ∀ data s, data.length < 2 ^ 63 → I s →
    ∀ n, (Backend.write data s).1 = .ok n → n < 2 ^ 63

variable {I : σ → Prop} (bounded : Bounded I)

include bounded

private theorem Bounded.readAgain (patience : Nat) {buffer : Bytes} (small : buffer.length < 2 ^ 63)
    {s : σ} (holds : I s) : I (Backend.readAgain patience buffer s).2 ∧
      ∀ n, (Backend.readAgain patience buffer s).1.outcome = .ok n → n < 2 ^ 63 := by
  induction patience generalizing buffer s with
  | zero =>
    exact ⟨bounded.read buffer.length s holds, bounded.readCount buffer.length s small holds⟩
  | succ patience ih =>
    have kept : I (Backend.readOnce buffer s).2 := bounded.read buffer.length s holds
    have count : ∀ n, (Backend.readOnce buffer s).1.outcome = .ok n → n < 2 ^ 63 :=
      bounded.readCount buffer.length s small holds
    have same := length_readOnce buffer s
    unfold Backend.readAgain
    split
    next equal =>
      rw [equal] at kept count
      exact ⟨kept, count⟩
    next equal =>
      rw [equal] at kept count same
      split
      · -- A try leaves the buffer as large as it was.
        exact ih (same ▸ small) kept
      · exact ⟨kept, count⟩

private theorem Bounded.writeAgain (patience : Nat) {data : Bytes} (small : data.length < 2 ^ 63)
    {s : σ} (holds : I s) : I (Backend.writeAgain patience data s).2 ∧
      ∀ n, (Backend.writeAgain patience data s).1 = .ok n → n < 2 ^ 63 := by
  induction patience generalizing s with
  | zero => exact ⟨bounded.write data s holds, bounded.writeCount data s small holds⟩
  | succ patience ih =>
    have kept := bounded.write data s holds
    have count := bounded.writeCount data s small holds
    unfold Backend.writeAgain
    split
    next equal =>
      rw [equal] at kept count
      exact ⟨kept, count⟩
    next equal =>
      rw [equal] at kept count
      split
      · exact ih kept
      · exact ⟨kept, count⟩

private theorem Bounded.steadyRead {buffer held : Bytes} (small : buffer.length < 2 ^ 63)
    {s after : σ} {outcome : Except TransportError Nat} (holds : I s)
    (read : Backend.steadyRead buffer s = (⟨outcome, held⟩, after)) :
    I after ∧ ∀ n, outcome = .ok n → n < 2 ^ 63 := by
  have ended := bounded.readAgain (Backend.patience s) small holds
  rw [Backend.steadyRead] at read
  rwa [read] at ended

private theorem Bounded.steadyWrite {data : Bytes} (small : data.length < 2 ^ 63) {s after : σ}
    {outcome : Except TransportError Nat} (holds : I s)
    (wrote : Backend.steadyWrite data s = (outcome, after)) :
    I after ∧ ∀ n, outcome = .ok n → n < 2 ^ 63 := by
  have ended := bounded.writeAgain (Backend.patience s) small holds
  rw [Backend.steadyWrite] at wrote
  rwa [wrote] at ended

end Backend

namespace Envelope

variable {σ : Type} [Backend σ]

/-- Offers an envelope from an index on until the index is behind its end. -/
def sendFrom? (envelope : Bytes) (offset : Nat) (state : σ) :
    Option (Except TransportError Unit × σ) :=
  if offset < envelope.length then
    match envelope.from? offset with
    | none => none
    | some rest =>
      match Backend.steadyWrite rest state with
      | (.error e, after) => some (.error e, after)
      | (.ok 0, after) => some (.error .disconnected, after)
      | (.ok (n + 1), after) =>
        -- The index has to fit a machine word.
        if offset + (n + 1) < 2 ^ 64 then sendFrom? envelope (offset + (n + 1)) after else none
  else some (.ok (), state)
termination_by envelope.length - offset

/-- Sends one body in its envelope. -/
def send? (body : Bytes) (state : σ) : Option (Except FrameError Nat × σ) :=
  match encode body with
  | .error e => some (.error e, state)
  | .ok envelope =>
    match sendFrom? envelope 0 state with
    | none => none
    | some (.ok (), after) => some (.ok body.length, after)
    | some (.error e, after) => some (.error (.transport e), after)

/-- Reads into a buffer from an index on until the index is behind its end. -/
def fillFrom? (buffer : Bytes) (filled : Nat) (state : σ) :
    Option ((Except TransportError Unit × Bytes) × σ) :=
  if filled < buffer.length then
    match buffer.from? filled with
    | none => none
    | some room =>
      match Backend.steadyRead room state with
      | (⟨.error e, held⟩, after) => some ((.error e, buffer.putAt filled held), after)
      | (⟨.ok 0, held⟩, after) => some ((.error .disconnected, buffer.putAt filled held), after)
      | (⟨.ok (n + 1), held⟩, after) =>
        if filled + (n + 1) < 2 ^ 64 then
          fillFrom? (buffer.putAt filled held) (filled + (n + 1)) after
        else none
  else some ((.ok (), buffer), state)
termination_by buffer.length - filled
decreasing_by
  rw [Bytes.length_putAt]
  omega

/-- Reads what remains into a scratch buffer, which is never looked at. -/
def drain? (remaining : Nat) (state : σ) : Option (Except TransportError Unit × σ) :=
  if 0 < remaining then
    match Bytes.upTo? (List.replicate drainSize 0) (min remaining drainSize) with
    | none => none
    | some room =>
      match Backend.steadyRead room state with
      | (⟨.error e, _⟩, after) => some (.error e, after)
      | (⟨.ok 0, _⟩, after) => some (.error .disconnected, after)
      | (⟨.ok (n + 1), _⟩, after) =>
        -- No more is taken off than remains, so the difference is not below zero.
        if min (n + 1) remaining ≤ remaining then drain? (remaining - min (n + 1) remaining) after
        else none
  else some (.ok (), state)
termination_by remaining
decreasing_by omega

/-- Receives one body into a buffer, whose size tells whether a part of the body is to be read
without being kept. -/
def receive? (buffer : Bytes) (state : σ) : Option (Filled FrameError × σ) :=
  match receiveHeader state with
  | (.error e, state) => some (⟨.error e, buffer⟩, state)
  | (.ok length, state) =>
    if length ≤ buffer.length then do
      let front ← buffer.upTo? length
      match ← fillFrom? front 0 state with
      | ((.error e, body), state) => return (⟨.error (.transport e), buffer.putAt 0 body⟩, state)
      | ((.ok (), body), state) => return (⟨.ok length, buffer.putAt 0 body⟩, state)
    else do
      match ← fillFrom? buffer 0 state with
      | ((.error e, held), state) => return (⟨.error (.transport e), held⟩, state)
      | ((.ok (), held), state) =>
        if buffer.length ≤ length then
          match ← drain? (length - buffer.length) state with
          | (.error e, state) => return (⟨.error (.transport e), held⟩, state)
          | (.ok (), state) => return (⟨.ok buffer.length, held⟩, state)
        else none

/-- What a read leaves in its room is as long as the room. -/
theorem putAt_read {buffer room held : Bytes} {filled : Nat} {state after : σ}
    {outcome : Except TransportError Nat} (same : buffer.drop filled = room)
    (read : Backend.steadyRead room state = (⟨outcome, held⟩, after)) :
    buffer.putAt filled held = buffer.take filled ++ held := by
  have length := Backend.length_steadyRead room state
  rw [read] at length
  rw [Bytes.putAt, same, Bytes.overlay_of_length_eq length]

/-- What is behind an index is a slice as long as there is something behind it. -/
theorem from?_of_drop {data rest : Bytes} {n : Nat} (same : data.drop n = rest)
    (more : rest ≠ []) : n < data.length ∧ data.from? n = some rest := by
  have inside : n < data.length := by
    refine Nat.lt_of_not_le fun past => more ?_
    rw [← same, List.drop_of_length_le past]
  exact ⟨inside, by rw [Bytes.from_eq (Nat.le_of_lt inside), same]⟩

private theorem drain_nothing (state : σ) : drain 0 state = (.ok (), state) := by
  rw [drain, if_pos rfl]

/-- No difference of a drain is below zero, and its scratch buffer is always long enough. -/
private theorem drain?_eq (remaining : Nat) (state : σ) :
    drain? remaining state = some (drain remaining state) := by
  have room (remaining : Nat) : Bytes.upTo? (List.replicate drainSize 0) (min remaining drainSize) =
      some (List.replicate (min remaining drainSize) 0) := by
    rw [Bytes.upTo_eq (by rw [List.length_replicate]; exact Nat.min_le_right ..),
      List.take_replicate, Nat.min_assoc, Nat.min_self]
  induction remaining, state using drain.induct with
  | case1 state => rw [drain?, if_neg (Nat.lt_irrefl 0), drain, if_pos rfl]
  | case2 remaining state more e held after failed =>
    rw [drain?, if_pos (Nat.pos_of_ne_zero more), room, drain, if_neg more]
    simp only [failed]
  | case3 remaining state more held after nothing =>
    rw [drain?, if_pos (Nat.pos_of_ne_zero more), room, drain, if_neg more]
    simp only [nothing]
  | case4 remaining state more n held after got ih =>
    have capped : remaining - min (n + 1) remaining = remaining - (n + 1) := by omega
    rw [drain?, if_pos (Nat.pos_of_ne_zero more), room, drain_step more got]
    simp only [got, if_pos (Nat.min_le_right ..), capped]
    exact ih

private theorem length_encode {body envelope : Bytes} (enveloped : encode body = .ok envelope) :
    envelope.length ≤ 65537 := by
  by_cases small : body.length ≤ maxBody
  · rw [encode_eq_wrap body small, Except.ok.injEq] at enveloped
    rw [← enveloped, length_wrap]
    simp only [maxBody, headerSize] at small ⊢
    omega
  · rw [encode, if_pos (Nat.not_le.mp small)] at enveloped
    cases enveloped

/-- A length field has two bytes, so the length is small. -/
theorem length_lt_of_header {state after : σ} {length : Nat}
    (headed : receiveHeader state = (.ok length, after)) : length < 2 ^ 16 := by
  have size := Backend.length_steadyRead (List.replicate headerSize 0) state
  rw [receiveHeader_eq, Prod.mk.injEq] at headed
  obtain ⟨read, -⟩ := headed
  generalize (Backend.steadyRead (List.replicate headerSize 0) state).1 = field at read size
  have small := Bytes.value_lt field.buffer
  rw [size] at small
  simp only [lengthOf] at read
  split at read
  next => cases read
  next => cases read
  next =>
    split at read
    next =>
      cases read
      exact small
    next => cases read

variable {I : σ → Prop} (bounded : Backend.Bounded I)

section

include bounded

-- Each loop follows the one without an index: what that one still has to move is what is behind
-- the index.

/-- The index stays in range, and what is behind it is what the loop without an index has left to
send. -/
private theorem sendFrom?_eq {envelope : Bytes} (small : envelope.length < 2 ^ 63) (offset : Nat)
    {state : σ} (holds : I state) :
    sendFrom? envelope offset state = some (sendAll (envelope.drop offset) state) := by
  generalize same : envelope.drop offset = rest
  induction rest, state using sendAll.induct generalizing offset with
  | case1 state =>
    have past : ¬offset < envelope.length := Nat.not_lt.mpr (List.drop_eq_nil_iff.mp same)
    rw [sendFrom?, if_neg past, sendAll, dif_pos rfl]
  | case2 rest state more e after failed =>
    obtain ⟨inside, slice⟩ := from?_of_drop same more
    rw [sendFrom?, if_pos inside, slice, sendAll, dif_neg more]
    simp only [failed]
  | case3 rest state more after nothing =>
    obtain ⟨inside, slice⟩ := from?_of_drop same more
    rw [sendFrom?, if_pos inside, slice, sendAll, dif_neg more]
    simp only [nothing]
  | case4 rest state more n after wrote ih =>
    obtain ⟨inside, slice⟩ := from?_of_drop same more
    -- What is offered is a part of the envelope, so the count is in range, and so is its sum with
    -- the index.
    have short : rest.length < 2 ^ 63 := by
      rw [← same, List.length_drop]
      omega
    obtain ⟨kept, count⟩ := bounded.steadyWrite short holds wrote
    have fits : offset + (n + 1) < 2 ^ 64 := by
      have count := count (n + 1) rfl
      omega
    rw [sendFrom?, if_pos inside, slice, sendAll_step more wrote]
    simp only [wrote, if_pos fits]
    exact ih (offset + (n + 1)) kept (by rw [← same, List.drop_drop])

/-- The index stays in range, and what is behind it is what the loop without an index has left to
fill. -/
private theorem fillFrom?_eq {buffer : Bytes} (small : buffer.length < 2 ^ 63) (filled : Nat)
    {state : σ} (holds : I state) :
    fillFrom? buffer filled state =
      some (((fillAll (buffer.drop filled) state).1.1,
        buffer.take filled ++ (fillAll (buffer.drop filled) state).1.2),
        (fillAll (buffer.drop filled) state).2) := by
  generalize same : buffer.drop filled = room
  induction room, state using fillAll.induct generalizing buffer filled with
  | case1 state =>
    have past : buffer.length ≤ filled := List.drop_eq_nil_iff.mp same
    rw [fillFrom?, if_neg (Nat.not_lt.mpr past), fillAll, dif_pos rfl, List.append_nil,
      List.take_of_length_le past]
  | case2 room state more e held after failed =>
    obtain ⟨inside, slice⟩ := from?_of_drop same more
    rw [fillFrom?, if_pos inside, slice, fillAll_failed more failed]
    simp only [failed, putAt_read same failed]
  | case3 room state more held after nothing =>
    obtain ⟨inside, slice⟩ := from?_of_drop same more
    rw [fillFrom?, if_pos inside, slice, fillAll_nothing more nothing]
    simp only [nothing, putAt_read same nothing]
  | case4 room state more n held after got outcome rest last whole ih =>
    obtain ⟨inside, slice⟩ := from?_of_drop same more
    have short : room.length < 2 ^ 63 := by
      rw [← same, List.length_drop]
      omega
    obtain ⟨kept, count⟩ := bounded.steadyRead short holds got
    have fits : filled + (n + 1) < 2 ^ 64 := by
      have count := count (n + 1) rfl
      omega
    have front : (buffer.take filled).length = filled := by
      rw [List.length_take]
      omega
    -- The bytes read so far are in front of the next index.
    have behind : (buffer.putAt filled held).drop (filled + (n + 1)) = held.drop (n + 1) := by
      rw [putAt_read same got, List.drop_append, front, Nat.add_sub_cancel_left,
        List.drop_of_length_le (by omega), List.nil_append]
    have before : (buffer.putAt filled held).take (filled + (n + 1)) =
        buffer.take filled ++ held.take (n + 1) := by
      rw [putAt_read same got, List.take_append, front, Nat.add_sub_cancel_left,
        List.take_of_length_le (by omega)]
    rw [fillFrom?, if_pos inside, slice, fillAll_step more got]
    simp only [got, if_pos fits]
    rw [ih (by rwa [Bytes.length_putAt]) (filled + (n + 1)) kept behind, before,
      List.append_assoc]

/-- Sending meets no index out of range. -/
theorem send?_eq (body : Bytes) {state : σ} (holds : I state) :
    send? body state = some (send body state) := by
  cases enveloped : encode body with
  | error e => simp only [send?, send, enveloped]
  | ok envelope =>
    have small : envelope.length < 2 ^ 63 := by
      have length := length_encode enveloped
      omega
    simp only [send?, send, enveloped, sendFrom?_eq bounded small 0 holds, List.drop_zero]
    cases sendAll envelope state with
    | mk outcome after => cases outcome <;> rfl

/-- Receiving meets no index out of range, whether or not the body fits into the buffer. -/
theorem receive?_eq (buffer : Bytes) {state : σ} (holds : I state) :
    receive? buffer state = some (receive buffer state) := by
  cases headed : receiveHeader state with
  | mk outcome after =>
    cases outcome with
    | error e => simp only [receive?, receive, headed]
    | ok length =>
      have small := length_lt_of_header headed
      have kept : I after := by
        obtain ⟨_, s, _, left, _, _, holds⟩ :=
          (receiveHeader_steady bounded.alike.steady state state ⟨rfl, holds⟩).split
        cases headed.symm.trans left
        exact holds
      -- A body that fits is filled whole; of a longer one the rest is drained.
      by_cases fits : length ≤ buffer.length
      · have front : (buffer.take length).length = length := by
          rw [List.length_take, Nat.min_eq_left fits]
        have room : (buffer.take length).length < 2 ^ 63 := by omega
        have filled := fillFrom?_eq bounded room 0 kept
        have size := (length_fillAll (buffer.take length) after).trans front
        rw [List.drop_zero, List.take_zero, List.nil_append] at filled
        simp only [receive?, receive, headed, if_pos fits, Bytes.upTo_eq fits, filled,
          Option.bind_eq_bind, Option.bind_some, Nat.min_eq_left fits,
          Nat.sub_eq_zero_of_le fits, drain_nothing]
        rcases filling : fillAll (buffer.take length) after with ⟨⟨ended, body⟩, between⟩
        rw [filling] at size
        have placed := Bytes.putAt_front size fits
        cases ended with
        | error e => simp only [placed, pure]
        | ok => simp only [placed, pure]
      · have small : buffer.length < length := Nat.not_le.mp fits
        have room : buffer.length < 2 ^ 63 := by omega
        have filled := fillFrom?_eq bounded room 0 kept
        rw [List.drop_zero, List.take_zero, List.nil_append] at filled
        simp only [receive?, receive, headed, if_neg fits, filled, Option.bind_eq_bind,
          Option.bind_some, List.take_of_length_le (Nat.le_of_lt small),
          List.drop_of_length_le (Nat.le_of_lt small), List.append_nil,
          if_pos (Nat.le_of_lt small), drain?_eq, Nat.min_eq_right (Nat.le_of_lt small)]
        rcases fillAll buffer after with ⟨⟨ended, body⟩, between⟩
        cases ended with
        | error e => rfl
        | ok =>
          simp only
          rcases drain (length - buffer.length) between with ⟨ended, last⟩
          cases ended <;> rfl

end

end Envelope
end BrickControl
