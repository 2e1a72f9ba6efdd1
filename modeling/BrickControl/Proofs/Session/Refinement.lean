import BrickControl.Proofs.Backend.Rehearsal
import BrickControl.Proofs.Command.Limits
import BrickControl.Proofs.Session.Operation

/-!
# A stream of envelopes stands for a queue of packets

The same operations on a backend that hands out packets and on a backend that hands out the same
packets as envelopes in a byte stream, in pieces of any size, end in the same results and buffers.
The two runs are kept together by `Aligned`: the stream holds the envelopes of the packets that are
still in the queue, and it took the envelopes of the requests that the other backend took.
-/
namespace BrickControl

namespace Rehearsal

/-- A backend that hands out these packets, one at each read, and takes every write whole. -/
structure CarriesPackets (queue : List Bytes) (rehearsal : Rehearsal) : Prop where
  supply : rehearsal.supply = .packets queue
  readPlan : rehearsal.readPlan = []
  writePlan : rehearsal.writePlan = []
  readLimit : rehearsal.readLimit = none
  writeLimit : rehearsal.writeLimit = none

/-- A backend that hands out these packets as envelopes, and takes and gives in pieces. -/
structure CarriesEnvelopes (queue : List Bytes) (rehearsal : Rehearsal) : Prop where
  supply : rehearsal.supply = .stream (queue.flatMap Envelope.wrap)
  reads : rehearsal.ReadsAdvance
  writes : rehearsal.WritesAdvance

theorem write_packets {queue : List Bytes} {rehearsal : Rehearsal}
    (carries : CarriesPackets queue rehearsal) (data : Bytes) :
    ∃ after, Backend.write data rehearsal = (.ok data.length, after) ∧
      CarriesPackets queue after ∧ after.offered = rehearsal.offered ++ [data] := by
  obtain ⟨supply, readPlan, writePlan, readLimit, writeLimit⟩ := carries
  simp only [Backend.write, turn, writePlan, writeLimit, within]
  refine ⟨_, rfl, ⟨supply, readPlan, rfl, readLimit, rfl⟩, ?_⟩
  simp [offered, calls, RehearsedCall.offered?]

theorem readOnce_packets {packet : Bytes} {queue : List Bytes} {rehearsal : Rehearsal}
    (carries : CarriesPackets (packet :: queue) rehearsal) (buffer : Bytes) :
    ∃ after, Backend.readOnce buffer rehearsal =
        (⟨.ok (min packet.length buffer.length), Bytes.overlay packet buffer⟩, after) ∧
      CarriesPackets queue after ∧ after.offered = rehearsal.offered := by
  obtain ⟨supply, readPlan, writePlan, readLimit, writeLimit⟩ := carries
  simp only [Backend.readOnce, Backend.read, turn, readPlan, readLimit, within, supply,
    Supply.take, Bytes.overlay_take, List.length_take, Nat.min_comm buffer.length]
  refine ⟨_, rfl, ⟨rfl, rfl, writePlan, rfl, writeLimit⟩, ?_⟩
  simp [offered, calls, RehearsedCall.offered?]

theorem CarriesEnvelopes.of_writes {queue : List Bytes} {before after : Rehearsal}
    (carries : CarriesEnvelopes queue before) (frame : OnlyWrites before after)
    (writes : after.WritesAdvance) : CarriesEnvelopes queue after where
  supply := frame.supply.trans carries.supply
  reads := ⟨frame.readPlan ▸ carries.reads.plan, frame.readLimit ▸ carries.reads.limit⟩
  writes := writes

theorem OnlyWrites.headerNext {before after : Rehearsal} (frame : OnlyWrites before after)
    (next : before.HeaderNext) : after.HeaderNext := by
  rwa [HeaderNext, frame.readPlan, frame.readLimit]

private theorem send_envelopes {queue : List Bytes} {rehearsal : Rehearsal}
    (carries : CarriesEnvelopes queue rehearsal) (data : Bytes)
    (small : data.length ≤ Envelope.maxBody) :
    ∃ after, Envelope.send data rehearsal = (.ok data.length, after) ∧
      CarriesEnvelopes queue after ∧ after.accepted = rehearsal.accepted ++ Envelope.wrap data ∧
      (rehearsal.HeaderNext → after.HeaderNext) := by
  obtain ⟨after, sent, taken, writes, frame⟩ := send_advancing carries.writes data small
  exact ⟨after, sent, carries.of_writes frame writes, taken, frame.headerNext⟩

private theorem receive_envelopes {packet : Bytes} {queue : List Bytes} {rehearsal : Rehearsal}
    (carries : CarriesEnvelopes (packet :: queue) rehearsal)
    (small : packet.length ≤ Envelope.maxBody) (next : rehearsal.HeaderNext) (buffer : Bytes) :
    ∃ after, Envelope.receive buffer rehearsal =
        (⟨.ok (min packet.length buffer.length), Bytes.overlay packet buffer⟩, after) ∧
      CarriesEnvelopes queue after ∧ after.accepted = rehearsal.accepted := by
  obtain ⟨supply, reads, writes⟩ := carries
  obtain ⟨after, received, left, reads', frame⟩ :=
    receive_advancing supply reads small next buffer
  exact ⟨after, received,
    ⟨left, reads', frame.writePlan ▸ writes.plan, frame.writeLimit ▸ writes.limit⟩,
    frame.accepted⟩

end Rehearsal

namespace Connection

variable {σ : Type} [Backend σ] {backend after : σ}

theorem write_overMessages {data : Bytes} {count : Nat}
    (wrote : Backend.write data backend = (.ok count, after)) :
    write data (overMessages backend) = (.ok count, overMessages after) := by
  simp only [write, overMessages, wrote, if_true]
  rfl

theorem read_overMessages {buffer held : Bytes} {count : Nat}
    (got : Backend.readOnce buffer backend = (⟨.ok count, held⟩, after)) :
    read buffer (overMessages backend) = (⟨.ok count, held⟩, overMessages after) := by
  simp only [read, overMessages, got, if_true]
  rfl

theorem write_overStream {data : Bytes} {count : Nat}
    (sent : Envelope.send data backend = (.ok count, after)) :
    write data (overStream backend) = (.ok count, overStream after) := by
  simp only [write, overStream, sent, if_true]
  rfl

theorem read_overStream {buffer held : Bytes} {count : Nat}
    (got : Envelope.receive buffer backend = (⟨.ok count, held⟩, after)) :
    read buffer (overStream backend) = (⟨.ok count, held⟩, overStream after) := by
  simp only [read, overStream, got, if_true]
  rfl

end Connection

namespace Session
open Rehearsal

/-- A stream that holds the packets of the other backend as envelopes, and that took as envelopes,
after what it took `earlier`, the requests that the other backend took. -/
structure Aligned (earlier : Bytes) (queue : List Bytes) (packets stream : Rehearsal) : Prop where
  small : ∀ packet ∈ queue, packet.length ≤ Envelope.maxBody
  queued : CarriesPackets queue packets
  enveloped : CarriesEnvelopes queue stream
  taken : stream.accepted = earlier ++ packets.offered.flatMap Envelope.wrap

/-- One operation keeps the backends together and ends on both in the same way. -/
theorem perform_aligned {earlier : Bytes} {queue : List Bytes} {packets stream : Rehearsal}
    (aligned : Aligned earlier queue packets stream) (operation : Operation)
    (answered : operation.command.awaits → queue ≠ [] ∧ stream.HeaderNext) :
    ∃ result packets' stream',
      operation.perform (Connection.overMessages packets) =
        (result, Connection.overMessages packets') ∧
      operation.perform (Connection.overStream stream) =
        (result, Connection.overStream stream') ∧
      Aligned earlier (if operation.command.awaits then queue.tail else queue)
        packets' stream' := by
  obtain ⟨small, carries, envelopes, taken⟩ := aligned
  simp only [Operation.perform_eq]
  cases accepted : operation.command.check with
  | error e =>
    -- Refused arguments reach neither backend.
    rw [Connection.perform_refused accepted, Connection.perform_refused accepted,
      Command.awaits_of_refused accepted]
    exact ⟨_, packets, stream, rfl, rfl, small, carries, envelopes, taken⟩
  | ok =>
    have short := operation.command.length_request_le accepted
    obtain ⟨packets₁, wrote, carries₁, offered⟩ := write_packets carries operation.command.request
    obtain ⟨stream₁, sent, envelopes₁, taken₁, next₁⟩ :=
      send_envelopes envelopes operation.command.request
        (Nat.le_trans short (by decide))
    have wrote := Connection.write_overMessages wrote
    have sent := Connection.write_overStream sent
    have taken₁ : stream₁.accepted = earlier ++ packets₁.offered.flatMap Envelope.wrap := by
      simp [taken₁, offered, taken]
    have awaits := Command.awaits_of_accepted accepted
    cases length : operation.command.opcode.replyLength? with
    | none =>
      have silent : operation.command.awaits = false := by rw [awaits, length, Option.isSome_none]
      rw [Connection.perform_silent accepted length wrote [],
        Connection.perform_silent accepted length sent [], silent]
      exact ⟨_, packets₁, stream₁, rfl, rfl, small, carries₁, envelopes₁, taken₁⟩
    | some size =>
      have asks : operation.command.awaits = true := by rw [awaits, length, Option.isSome_some]
      -- The first packet of the queue is the next envelope on the stream.
      obtain ⟨nonempty, next⟩ := answered asks
      obtain ⟨packet, rest, rfl⟩ := List.exists_cons_of_ne_nil nonempty
      obtain ⟨packets₂, got, carries₂, offered₂⟩ :=
        readOnce_packets carries₁ (List.replicate size 0)
      obtain ⟨stream₂, received, envelopes₂, taken₂⟩ :=
        receive_envelopes envelopes₁ (small packet (List.mem_cons_self ..)) (next₁ next)
          (List.replicate size 0)
      rw [List.length_replicate] at got received
      have got := Connection.read_overMessages got
      have received := Connection.read_overStream received
      rw [Connection.perform_query accepted length wrote got,
        Connection.perform_query accepted length sent received, if_pos asks]
      exact ⟨_, packets₂, stream₂, rfl, rfl,
        fun p member => small p (List.mem_cons_of_mem packet member), carries₂, envelopes₂,
        by rw [taken₂, taken₁, offered₂]⟩

/-- A session keeps the backends together, as long as there is a packet for each answer awaited. -/
theorem run_aligned (operations : List Operation) {earlier : Bytes} {queue : List Bytes}
    {packets stream : Rehearsal} (aligned : Aligned earlier queue packets stream)
    (enough : operations.countP (·.command.awaits) ≤ queue.length)
    (whole : ReadyToAnswer Rehearsal.HeaderNext operations (Connection.overStream stream)) :
    ∃ results packets' stream' queue',
      run operations (Connection.overMessages packets) =
        (results, Connection.overMessages packets') ∧
      run operations (Connection.overStream stream) = (results, Connection.overStream stream') ∧
      Aligned earlier queue' packets' stream' := by
  induction operations generalizing queue packets stream with
  | nil => exact ⟨[], packets, stream, queue, rfl, rfl, aligned⟩
  | cons operation rest ih =>
    obtain ⟨now, later⟩ := whole
    rw [List.countP_cons] at enough
    have answered : operation.command.awaits → queue ≠ [] ∧ stream.HeaderNext := by
      intro asks
      rw [if_pos asks] at enough
      exact ⟨List.length_pos_iff.mp (by omega), now asks⟩
    obtain ⟨result, packets₁, stream₁, one, other, aligned₁⟩ :=
      perform_aligned aligned operation answered
    rw [other] at later
    -- An operation that awaits an answer uses up one packet, and no other uses one.
    have left : rest.countP (·.command.awaits) ≤
        (if operation.command.awaits then queue.tail else queue).length := by
      split at enough
      next asks => rw [if_pos asks, List.length_tail]; omega
      next silent => rw [if_neg silent]; omega
    obtain ⟨results, packets₂, stream₂, queue₂, ones, others, aligned₂⟩ := ih aligned₁ left later
    refine ⟨result :: results, packets₂, stream₂, queue₂, ?_, ?_, aligned₂⟩
    · simp only [run, one, ones]
    · simp only [run, other, others]

/-- The session over the stream ends as the one over the packets, and the stream took the requests
of that one as envelopes. -/
theorem run_overStream (operations : List Operation) (packets : List Bytes)
    (small : ∀ packet ∈ packets, packet.length ≤ Envelope.maxBody)
    (enough : operations.countP (·.command.awaits) ≤ packets.length) (stream : Rehearsal)
    (supply : stream.supply = .stream (packets.flatMap Envelope.wrap))
    (reads : stream.ReadsAdvance) (writes : stream.WritesAdvance)
    (whole : ReadyToAnswer Rehearsal.HeaderNext operations (Connection.overStream stream)) :
    let queue : Rehearsal := { supply := .packets packets }
    (run operations (Connection.overStream stream)).1 =
      (run operations (Connection.overMessages queue)).1 ∧
    (run operations (Connection.overStream stream)).2.backend.accepted = stream.accepted ++
      (run operations (Connection.overMessages queue)).2.backend.offered.flatMap Envelope.wrap := by
  intro queue
  have aligned : Aligned stream.accepted packets queue stream :=
    ⟨small, ⟨rfl, rfl, rfl, rfl, rfl⟩, ⟨supply, reads, writes⟩, (List.append_nil _).symm⟩
  obtain ⟨results, queue', stream', left, one, other, aligned'⟩ :=
    run_aligned operations aligned enough whole
  rw [one, other]
  exact ⟨rfl, aligned'.taken⟩

/-- A long answer, a refused argument, a foreign answer and a short buffer, with the stream cut into
pieces of one and two bytes. -/
theorem run_overStream_pieces :
    let cut : Turn := .fails (.io (.bare .interrupted))
    let operations : List Operation :=
      [.plain .getBatteryLevel, .messageRead 17 0 true [1], .plain (.playTone 100 5),
        .plain .keepAlive, .lowSpeedRead .one [7, 7]]
    let packets : List Bytes :=
      [[2, 0x0B, 0, 0x40, 0x1F, 0xAA, 0xBB], [2, 0x0B, 0],
        [2, 0x10, 0, 3, 1, 2, 3, 0, 0, 0, 0, 0, 0, 0, 0, 0, 0, 0, 0, 0]]
    let stream : Rehearsal :=
      { supply := .stream (packets.flatMap Envelope.wrap)
        readPlan := [cut, .upTo none, .upTo (some 1), cut, .upTo (some 3)]
        readLimit := some 2, writePlan := [cut, .upTo (some 3)], writeLimit := some 1 }
    (run operations (Connection.overStream stream)).1 =
      (run operations (Connection.overMessages
        ({ supply := .packets packets } : Rehearsal))).1 := by
  intro cut operations packets stream
  have whole : ReadyToAnswer Rehearsal.HeaderNext operations (Connection.overStream stream) := by
    refine ⟨?_, ?_, ?_, ?_, ?_, trivial⟩
    all_goals
      intro _
      decide +kernel
  exact (run_overStream operations packets (by decide) (by decide) stream rfl
    ⟨by decide, by decide⟩ ⟨by decide, by decide⟩ whole).1

end Session
end BrickControl
