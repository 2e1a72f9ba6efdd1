import BrickControl.Proofs.Backend.Signals
import BrickControl.Proofs.Envelope.Sending
import BrickControl.Proofs.Radio.Signals

/-!
# Interruptions do not show

Whoever sends and receives over a stream does so in errands, one after the other. Signals may arrive
at any of the calls that an errand comes to: before the length field, between two pieces of a body,
while the rest of a body is thrown away, between two partial writes. Each errand ends as it would
have ended without them. The same holds of single calls on a radio link, whose socket has a loop of
its own.
-/
namespace BrickControl

/-- Something to do over a stream. -/
inductive Errand where
  | send (data : Bytes)
  | receive (buffer : Bytes)
  deriving DecidableEq

/-- How an errand ended; after a receive the buffer is a part of it. -/
inductive Errand.Ended (ε : Type) where
  | sent (outcome : Except ε Nat)
  | received (outcome : Except ε Nat) (buffer : Bytes)
  deriving DecidableEq

open Errand (Ended)

section

variable {σ : Type} [Backend σ]

/-- An errand that is a single call. -/
def Backend.run : Errand → σ → Ended TransportError × σ
  | .send data, state => ((.sent (Backend.write data state).1), (Backend.write data state).2)
  | .receive buffer, state =>
    (.received (readOnce buffer state).1.outcome (readOnce buffer state).1.buffer,
      (readOnce buffer state).2)

/-- An errand that carries an envelope. -/
def Envelope.Carrier.run : Errand → Carrier σ → Ended FrameError × Carrier σ
  | .send data, carrier => (.sent (send data carrier).1, (send data carrier).2)
  | .receive buffer, carrier =>
    (.received (receive buffer carrier).1.outcome (receive buffer carrier).1.buffer,
      (receive buffer carrier).2)

end

section

variable {σ τ : Type} [Backend σ] [Backend τ] {R : σ → τ → Prop}

/-- Backends that behave alike run single errands alike. -/
theorem Backend.Alike.run (alike : Backend.Alike R) (errand : Errand) (s : σ) (t : τ)
    (related : R s t) : Agree R (Backend.run errand s) (Backend.run errand t) := by
  cases errand with
  | send data => exact (alike.write data s t related).map Ended.sent
  | receive buffer =>
    exact (alike.readOnce buffer s t related).map fun ended =>
      Ended.received ended.outcome ended.buffer

namespace Envelope.Carrier

/-- Carriers with the same buffer over related backends. -/
def Over (R : σ → τ → Prop) (left : Carrier σ) (right : Carrier τ) : Prop :=
  R left.backend right.backend ∧ left.buffer = right.buffer

private theorem send_steady (steady : Backend.Steady R) (body : Bytes) (left : Carrier σ)
    (right : Carrier τ) (paired : Over R left right) :
    Agree (Over R) (send body left) (send body right) := by
  obtain ⟨related, same⟩ := paired
  by_cases small : body.length ≤ maxBody
  · obtain ⟨outcome, related'⟩ :=
      sendAll_steady steady (wrap body) left.backend right.backend related
    rw [send_small small, send_small small, outcome]
    exact ⟨rfl, related', rfl⟩
  · -- Nothing is sent, and the buffer is empty on both sides.
    have long : maxBody < body.length := Nat.lt_of_not_le small
    rw [send_long long, send_long long]
    exact ⟨rfl, related, rfl⟩

private theorem receive_steady (steady : Backend.Steady R) (buffer : Bytes) (left : Carrier σ)
    (right : Carrier τ) (paired : Over R left right) :
    Agree (Over R) (receive buffer left) (receive buffer right) := by
  obtain ⟨related, same⟩ := paired
  obtain ⟨ended, related'⟩ :=
    Envelope.receive_steady steady buffer left.backend right.backend related
  exact ⟨ended, related', same⟩

private theorem run_steady (steady : Backend.Steady R) (errand : Errand) (left : Carrier σ)
    (right : Carrier τ) (paired : Over R left right) :
    Agree (Over R) (run errand left) (run errand right) := by
  cases errand with
  | send data => exact (send_steady steady data left right paired).map Ended.sent
  | receive buffer =>
    exact (receive_steady steady buffer left right paired).map fun ended =>
      Ended.received ended.outcome ended.buffer

end Envelope.Carrier

end

open Envelope (Carrier)
open Host (ButSignals)

namespace Envelope.Carrier

variable {σ : Type} [Backend σ] [Backend.Patient σ]

/-- Over a carrier, no signal shows: neither in how errands end, nor in what became of the backend
behind the signals, nor in the carrier's buffer. -/
theorem run_signaled (errands : List Errand) (backend : σ) (signals : List (Option Signal))
    (leftover : Bytes) :
    Agree (Over Signaled.Hides) (each run errands ⟨⟨backend, signals⟩, leftover⟩)
      (each run errands ⟨backend, leftover⟩) :=
  each_agree (run_steady Signaled.hides_steady) errands _ _ ⟨rfl, rfl⟩

end Envelope.Carrier

/-- On a link, what errands come to is a matter of the host without its signals. -/
theorem Radio.Link.run_quiets (errands : List Errand) (link : Link) (host : Host) :
    Agree Link.Quiets (each Backend.run errands (link, host))
      (each Backend.run errands (link, host.unsignaled)) :=
  each_agree Link.quiets_alike.run errands _ _ ⟨rfl, rfl⟩

/-- Signals at any calls of the backend change neither how a sequence of sends and receives ends,
buffers included, nor the state of the backend behind them, which knows what it took and gave.
On a radio link two hosts that differ only in signals let every sequence of writes and reads end in
the same way, with the same stream left to be read and the same calls made, not counting those that
were cut short. -/
theorem interruptions_invisible {σ : Type} [Backend σ] [Backend.Patient σ]
    (errands : List Errand) (backend : σ) (signals : List (Option Signal)) (leftover : Bytes)
    (link : Radio.Link) (one other : Host) (same : ButSignals one other) :
    let signaled : Carrier (Signaled σ) := ⟨⟨backend, signals⟩, leftover⟩
    let disturbed := each Carrier.run errands signaled
    let calm := each Carrier.run errands (⟨backend, leftover⟩ : Carrier σ)
    let first := each Backend.run errands (link, one)
    let second := each Backend.run errands (link, other)
    (disturbed.1 = calm.1 ∧ disturbed.2.backend.backend = calm.2.backend ∧
      disturbed.2.buffer = calm.2.buffer) ∧
    first.1 = second.1 ∧ first.2.1 = second.2.1 ∧ ButSignals first.2.2 second.2.2 ∧
      first.2.2.script.stream = second.2.2.script.stream ∧
      first.2.2.made.filter (!·.cut) = second.2.2.made.filter (!·.cut) := by
  intro signaled disturbed calm first second
  constructor
  · obtain ⟨ends, behind, buffer⟩ := Carrier.run_signaled errands backend signals leftover
    exact ⟨ends, behind, buffer⟩
  · -- Both hosts are compared with the one without signals.
    obtain ⟨ends, links, quiet⟩ := Radio.Link.run_quiets errands link one
    obtain ⟨ends', links', quiet'⟩ := Radio.Link.run_quiets errands link other
    have unsignaled : one.unsignaled = other.unsignaled := same
    rw [unsignaled] at ends links quiet
    have alike : first.2.2.unsignaled = second.2.2.unsignaled := quiet.trans quiet'.symm
    exact ⟨ends.trans ends'.symm, links.trans links'.symm, alike,
      congrArg (fun host => host.script.stream) alike, congrArg Host.made alike⟩

/-- Signals before a length field, between the pieces of bodies, in a drain and between partial
writes; and on the host of a radio link. -/
theorem interruptions_invisible_pieces :
    let signal : Signal := ⟨.bare .interrupted, rfl⟩
    let backend : Rehearsal :=
      { supply := .stream [3, 0, 1, 2, 3, 4, 0, 5, 6, 7, 8]
        readPlan := [.upTo none, .upTo (some 1)]
        writePlan := [.upTo (some 2)] }
    let signals := [some signal, none, some signal, some signal, none, some signal, none, none,
      some signal, none, some signal]
    let errands : List Errand := [.send [9], .receive [0, 0, 0], .receive [0, 0]]
    let link : Radio.Link := ⟨some ⟨0⟩, ⟨[0, 0, 0, 0, 0, 0], rfl⟩⟩
    let one : Host := .ofScript
      { stream := [1, 2, 3]
        receive := [.error Errno.interrupted, .ok (some 1), .error Errno.interrupted]
        send := [.error Errno.interrupted, .error Errno.interrupted] }
    let other : Host := .ofScript { stream := [1, 2, 3], receive := [.ok (some 1)] }
    let signaled : Carrier (Signaled Rehearsal) := ⟨⟨backend, signals⟩, []⟩
    let disturbed := each Carrier.run errands signaled
    let calm := each Carrier.run errands (⟨backend, []⟩ : Carrier Rehearsal)
    let first := each Backend.run errands (link, one)
    ButSignals one other ∧
    disturbed.1 = [.sent (.ok 1), .received (.ok 3) [1, 2, 3], .received (.ok 2) [5, 6]] ∧
    disturbed.2.backend.backend = calm.2.backend ∧ disturbed.2.backend.signals = [] ∧
    first.1 = [.sent (.ok 1), .received (.ok 1) [1, 0, 0], .received (.ok 2) [2, 3]] := by
  intro signal backend signals errands link one other signaled disturbed calm first
  have same : ButSignals one other := rfl
  obtain ⟨⟨ends, behind, _⟩, ends', _⟩ :=
    interruptions_invisible errands backend signals [] link one other same
  have hidden : disturbed.2.backend.backend = calm.2.backend := by
    simpa only [disturbed, calm, signaled] using behind
  -- What the disturbed errands come to is read off the calm ones.
  refine ⟨same, ?_, hidden, by decide +kernel, ?_⟩
  · rw [show disturbed.1 = _ from ends]
    decide +kernel
  · rw [show first.1 = _ from ends']
    decide +kernel

end BrickControl
