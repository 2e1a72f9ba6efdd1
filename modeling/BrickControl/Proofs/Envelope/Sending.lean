import BrickControl.Envelope.Carrier
import BrickControl.Proofs.Envelope.Course
import Mathlib.Data.List.TakeDrop

/-!
# What a send leaves behind

A carrier uses one buffer for all its envelopes. What a send offers is nevertheless a matter of its
body and of what was taken of it so far: the envelope is laid out in an empty buffer, and each write
offers the rest of it. So what was taken at any point is a front of one envelope.
-/
namespace BrickControl.Envelope

open Exchange

namespace Carrier

variable {σ : Type} [Backend σ] {body : Bytes}

/-- A body that is too long is not offered, and what was left in the buffer is gone. -/
theorem send_long (long : maxBody < body.length) (carrier : Carrier σ) :
    send body carrier =
      (.error (.bodyTooLarge body.length maxBody), { carrier with buffer := [] }) := by
  simp only [send, append, encode, gt_iff_lt, if_pos long]

/-- The buffer is filled afresh with the envelope, and it stays there. -/
theorem send_small (small : body.length ≤ maxBody) (carrier : Carrier σ) :
    send body carrier =
      (((sendAll (wrap body) carrier.backend).1.mapError .transport).map fun _ => body.length,
        ⟨(sendAll (wrap body) carrier.backend).2, wrap body⟩) := by
  simp only [send, append, encode_eq_wrap body small, List.nil_append]
  rcases sendAll (wrap body) carrier.backend with ⟨_ | _, after⟩
  · rfl
  · rfl

/-- A carrier sends what its backend would send without it. -/
theorem send_backend (carrier : Carrier σ) :
    ((send body carrier).1, (send body carrier).2.backend) =
      Envelope.send body carrier.backend := by
  by_cases small : body.length ≤ maxBody
  · rw [send_small small, send_of_small small]
  · have long : maxBody < body.length := Nat.lt_of_not_le small
    rw [send_long long, send_of_long long]

/-- The buffer is cleared before it is filled. -/
private theorem send_leftover (carrier : Carrier σ) (leftover : Bytes) :
    send body { carrier with buffer := leftover } = send body carrier := by
  simp only [send]

/-- A send writes a front of one envelope, and the whole of it exactly when it succeeds. Each write
offers what the earlier writes of this call left of the envelope. A write that takes nothing or that
fails is the last one and decides the outcome, unless a signal cut it short. A body that is too long
is not offered at all. What earlier calls left in the buffer makes no difference. -/
theorem send_writes_envelope [Backend.Patient σ] (body : Bytes)
    (carrier : Carrier (Journaled σ)) :
    let envelope := Bytes.littleEndian 2 body.length ++ body
    let sent := send body carrier
    (65535 < body.length → sent.1 = .error (.bodyTooLarge body.length 65535) ∧
      sent.2.backend = carrier.backend) ∧
    (body.length ≤ 65535 → ∃ calls,
      sent.2.backend.journal = carrier.backend.journal ++ calls ∧
      (∀ front call back, calls = front ++ call :: back →
        call.ask = .write (envelope.drop (moved front)) ∧ moved front < envelope.length) ∧
      calls.flatMap taken <+: envelope ∧
      (calls.flatMap taken = envelope ↔ ∀ call ∈ calls, call.fault? = none) ∧
      (sent.1 = .ok body.length ↔ ∀ call ∈ calls, call.fault? = none) ∧
      (∀ front call back e, calls = front ++ call :: back → call.fault? = some e →
        back = [] ∧ sent.1 = .error (.transport e))) ∧
    ∀ leftover, send body { carrier with buffer := leftover } = sent := by
  intro envelope sent
  refine ⟨fun long => ?_, fun small => ?_, send_leftover carrier⟩
  · simp only [sent, send_long long]
    exact ⟨rfl, trivial⟩
  · obtain ⟨calls, grown, moves⟩ := sendAll_moves envelope envelope 0 rfl carrier.backend
    have whole : calls.flatMap taken = envelope.take (moved calls) := moves.taken_eq
    have complete := moves.ok_iff_whole
    have asked (front : List Exchange) (call : Exchange) (back : List Exchange)
        (parts : calls = front ++ call :: back) := (parts ▸ moves).asked
    simp only [Nat.zero_add] at complete asked
    have ended : sent = _ := send_small small carrier
    change sent = (((sendAll envelope carrier.backend).1.mapError .transport).map _, _) at ended
    -- The outcome is the one of the loop, said in other terms.
    generalize (sendAll envelope carrier.backend).1 = outcome at moves complete ended
    refine ⟨calls, by rw [ended]; exact grown, asked, ?_, ?_, ?_, ?_⟩
    · rw [whole]
      exact List.take_prefix _ _
    · rw [whole, List.take_eq_self_iff, ← complete, moves.ok_iff_passes]
    · rw [← moves.ok_iff_passes, ended]
      cases outcome with
      | ok => simp [Except.mapError, Except.map]
      | error e => simp [Except.mapError, Except.map]
    · intro front call back e parts fault
      obtain ⟨last, failed⟩ := (parts ▸ moves.heeds).stops fault
      refine ⟨last, ?_⟩
      rw [ended, error_of_failure failed]
      rfl

/-- The first send fails in the middle; the second one is interrupted and cut into pieces. -/
theorem send_writes_envelope_after_failure :
    let cut : Turn := .fails (.io (.bare .interrupted))
    let backend : Rehearsal :=
      { supply := .stream []
        writePlan := [.upTo (some 3), .fails (.usb .pipe), cut, .upTo (some 1), cut] }
    let failed := send [1, 2, 3, 4] (⟨⟨backend, []⟩, []⟩ : Carrier (Journaled Rehearsal))
    let sent := send [9] failed.2
    failed.1 = .error (.transport (.usb .pipe)) ∧ failed.2.buffer = [4, 0, 1, 2, 3, 4] ∧
    sent.1 = .ok 1 ∧
    (∃ calls, sent.2.backend.journal = failed.2.backend.journal ++ calls ∧
      calls.flatMap taken = [1, 0, 9]) ∧
    send [9] { failed.2 with buffer := [] } = sent := by
  intro cut backend failed sent
  obtain ⟨_, short, leftover⟩ := send_writes_envelope [9] failed.2
  obtain ⟨calls, grown, _, _, whole, succeeds, _⟩ := short (by decide)
  have done : sent.1 = .ok 1 := by decide +kernel
  exact ⟨by decide +kernel, by decide +kernel, done,
    ⟨calls, grown, whole.mpr (succeeds.mp done)⟩, leftover []⟩

end Carrier
end BrickControl.Envelope
