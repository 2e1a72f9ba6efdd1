import BrickControl.Proofs.Session.Brick

/-!
# Lockstep

A session with a brick never falls out of step: whatever an operation is and however it ends, the
brick has nothing left to say when it is over. So what a query gets is the packet that the brick
made for this very request, and no answer of an operation before it.
-/
namespace BrickControl

namespace Command

/-- The requests that reach the brick: one, or none where the arguments are refused. -/
def requests (command : Command) : List Bytes :=
  match command.check with
  | .ok () => [command.request]
  | .error _ => []

/-- The end of a command on a brick that has heard these requests before: a query is decoded from
the packet that answers its own request. -/
def outcome (command : Command) (answer : List Bytes → Bytes) (heard : List Bytes) :
    Except CommandError command.Answer :=
  match command.check with
  | .ok () => command.interpret (answer (heard ++ [command.request]))
  | .error e => .error e

private theorem asks_request (command : Command) :
    Brick.asks command.request = command.opcode.replyLength?.isSome := by
  have expected (reply : Bool) :
      (ReplyMode.ofFlag reply).byte = ReplyMode.expected.byte ↔ reply = true := by
    cases reply <;> decide
  simp only [Brick.asks, request, List.head?_cons, Opcode.replyMode, Option.some.injEq, expected,
    Bool.decide_eq_true]

end Command

namespace Brick

def connect (brick : Brick) : Connection Brick := ⟨brick.framing, true, brick⟩

/-- On a stream the next length field comes whole. -/
def Ready (brick : Brick) : Prop := brick.framing = .stream → brick.link.HeaderNext

theorem connect_message {brick : Brick} (framing : brick.framing = .message) :
    brick.connect = Connection.overMessages brick := by
  rw [connect, framing, Connection.overMessages]

theorem connect_stream {brick : Brick} (framing : brick.framing = .stream) :
    brick.connect = Connection.overStream brick := by
  rw [connect, framing, Connection.overStream]

private theorem write_connect {brick : Brick} (idle : brick.Idle) (request : Bytes)
    (small : request.length ≤ Envelope.maxBody) :
    ∃ told, Connection.write request brick.connect = (.ok request.length, told.connect) ∧
      Told request brick told := by
  cases framing : brick.framing with
  | message =>
    obtain ⟨told, wrote, after⟩ := write_told framing idle request
    refine ⟨told, ?_, after⟩
    rw [connect_message framing, connect_message (after.framing.trans framing)]
    exact Connection.write_overMessages wrote
  | stream =>
    obtain ⟨told, sent, after⟩ := send_told framing idle request small
    refine ⟨told, ?_, after⟩
    rw [connect_stream framing, connect_stream (after.framing.trans framing)]
    exact Connection.write_overStream sent

private theorem read_connect {brick : Brick} {packet : Bytes} (begun : brick.begun = [])
    (carries : brick.Carries [packet]) (small : packet.length ≤ Envelope.maxBody)
    (ready : brick.Ready) (buffer : Bytes) :
    ∃ after, Connection.read buffer brick.connect =
        (⟨.ok (min packet.length buffer.length), Bytes.overlay packet buffer⟩, after.connect) ∧
      Settled brick.heard brick after := by
  cases framing : brick.framing with
  | message =>
    obtain ⟨after, got, settled⟩ := readOnce_settled framing begun carries buffer
    refine ⟨after, ?_, settled⟩
    rw [connect_message framing, connect_message (settled.framing.trans framing)]
    exact Connection.read_overMessages got
  | stream =>
    obtain ⟨after, got, settled⟩ :=
      receive_settled framing begun carries small (ready framing) buffer
    refine ⟨after, ?_, settled⟩
    rw [connect_stream framing, connect_stream (settled.framing.trans framing)]
    exact Connection.read_overStream got

private theorem Told.settled {request : Bytes} {before after : Brick}
    (told : Told request before after)
    (silent : asks request = false) : Settled (before.heard ++ [request]) before after where
  framing := told.framing
  answer := told.answer
  heard := told.heard
  idle := ⟨by simpa only [replies, silent, Bool.false_eq_true, if_false] using told.queued,
    told.begun⟩

end Brick

namespace Session

/-- One operation, however it ends, leaves an idle brick idle. -/
theorem perform_settled {brick : Brick} (idle : brick.Idle)
    (small : ∀ heard, (brick.answer heard).length ≤ Envelope.maxBody) (operation : Operation)
    (ready : operation.command.awaits → brick.Ready) :
    ∃ after, operation.perform brick.connect =
        (operation.yield (operation.command.outcome brick.answer brick.heard), after.connect) ∧
      brick.Settled (brick.heard ++ operation.command.requests) after := by
  simp only [Operation.perform_eq, Command.outcome, Command.requests]
  cases accepted : operation.command.check with
  | error e =>
    -- Nothing is written, so the brick hears nothing.
    rw [Connection.perform_refused accepted, List.append_nil]
    exact ⟨brick, rfl, rfl, rfl, rfl, idle⟩
  | ok =>
    obtain ⟨told, wrote, heard⟩ := Brick.write_connect idle operation.command.request
      (Nat.le_trans (operation.command.length_request_le accepted) (by decide))
    -- The control byte asks for an answer exactly where the command is going to read one.
    cases length : operation.command.opcode.replyLength? with
    | none =>
      have asks : Brick.asks operation.command.request = false := by
        rw [Command.asks_request, length, Option.isSome_none]
      rw [Connection.perform_silent accepted length wrote]
      exact ⟨told, rfl, heard.settled asks⟩
    | some size =>
      have asks : Brick.asks operation.command.request = true := by
        rw [Command.asks_request, length, Option.isSome_some]
      -- The one packet that is queued now is the one that the read takes off the link.
      have queued := heard.queued
      rw [Brick.replies, if_pos asks] at queued
      have awaits : operation.command.awaits = true := by
        rw [Command.awaits_of_accepted accepted, length, Option.isSome_some]
      have ready : told.Ready := fun stream =>
        heard.header (ready awaits (heard.framing.symm.trans stream))
      obtain ⟨after, got, settled⟩ :=
        Brick.read_connect heard.begun queued (small _) ready (List.replicate size 0)
      rw [List.length_replicate] at got
      rw [Connection.perform_query accepted length wrote got]
      exact ⟨after, rfl, settled.framing.trans heard.framing, settled.answer.trans heard.answer,
        settled.heard.trans heard.heard, settled.idle⟩

/-- What a session gets from a brick that answers so and has heard these requests before. -/
def outcomes (answer : List Bytes → Bytes) : List Bytes → List Operation → List Result
  | _, [] => []
  | heard, operation :: rest =>
    operation.yield (operation.command.outcome answer heard) ::
      outcomes answer (heard ++ operation.command.requests) rest

/-- A session leaves an idle brick idle, whatever becomes of its operations. -/
private theorem run_settled (operations : List Operation) {brick : Brick} (idle : brick.Idle)
    (small : ∀ heard, (brick.answer heard).length ≤ Envelope.maxBody)
    (ready : ReadyToAnswer Brick.Ready operations brick.connect) :
    ∃ after, run operations brick.connect =
        (outcomes brick.answer brick.heard operations, after.connect) ∧
      brick.Settled (brick.heard ++ operations.flatMap (·.command.requests)) after := by
  induction operations generalizing brick with
  | nil =>
    rw [List.flatMap_nil, List.append_nil]
    exact ⟨brick, rfl, rfl, rfl, rfl, idle⟩
  | cons operation rest ih =>
    obtain ⟨now, later⟩ := ready
    -- What comes next starts from an idle brick that answers in the same way.
    obtain ⟨between, one, settled⟩ := perform_settled idle small operation now
    rw [one] at later
    obtain ⟨after, others, settled'⟩ := ih settled.idle (settled.answer ▸ small) later
    rw [settled.answer, settled.heard] at others
    rw [settled.heard, List.append_assoc] at settled'
    refine ⟨after, ?_, settled'.framing.trans settled.framing,
      settled'.answer.trans settled.answer, ?_, settled'.idle⟩
    · simp only [run, outcomes, one, others]
    · rw [settled'.heard, List.flatMap_cons]

private theorem ReadyToAnswer.of_append {σ : Type} [Backend σ] {ready : σ → Prop}
    {done rest : List Operation} {connection : Connection σ}
    (whole : ReadyToAnswer ready (done ++ rest) connection) :
    ReadyToAnswer ready done connection := by
  induction done generalizing connection with
  | nil => trivial
  | cons operation done ih => exact ⟨whole.1, ih whole.2⟩

/-- At every point of a session the brick is idle, every query so far got the answer to its own
request, and the brick heard the requests of the operations so far and nothing else. -/
theorem run_lockstep (operations : List Operation) (brick : Brick) (idle : brick.Idle)
    (small : ∀ heard, (brick.answer heard).length ≤ Envelope.maxBody)
    (ready : ReadyToAnswer Brick.Ready operations brick.connect) (done : List Operation)
    (front : done <+: operations) :
    let reached := (run done brick.connect).2.backend
    (run done brick.connect).1 = outcomes brick.answer brick.heard done ∧
    (run done brick.connect).2 = reached.connect ∧ reached.Idle ∧
    reached.heard = brick.heard ++ done.flatMap (·.command.requests) := by
  obtain ⟨rest, rfl⟩ := front
  obtain ⟨after, ended, settled⟩ := run_settled done idle small ready.of_append
  rw [ended]
  exact ⟨rfl, rfl, settled.idle, settled.heard⟩

/-- A stream in small pieces to a brick whose packets are too long, then empty, then the answer to a
command that was never given. -/
theorem run_lockstep_pieces :
    let cut : Turn := .fails (.io (.bare .interrupted))
    let link : Rehearsal :=
      { supply := .stream [], readPlan := [cut, .upTo none, .upTo (some 1), cut, .upTo (some 3)]
        readLimit := some 2, writePlan := [cut, .upTo (some 3)], writeLimit := some 1 }
    let answer : List Bytes → Bytes := fun heard =>
      match heard.length with
      | 1 => [2, 0x0B, 0, 0x40, 0x1F, 0xAA, 0xBB]
      | 3 => []
      | _ => [2, 0x13, 0, 0, 0]
    let brick : Brick := { link, framing := .stream, answer }
    let operations : List Operation :=
      [.plain .getBatteryLevel, .plain (.messageWrite 10 []), .plain (.playTone 100 5),
        .plain .keepAlive, .lowSpeedRead .one [7, 7]]
    (run operations brick.connect).1 = outcomes answer [] operations := by
  intro cut link answer brick operations
  have idle : brick.Idle :=
    ⟨⟨rfl, ⟨by decide, by decide⟩, ⟨by decide, by decide⟩⟩, rfl⟩
  have small (heard : List Bytes) : (answer heard).length ≤ Envelope.maxBody := by
    dsimp only [answer]
    split <;> decide
  have ready : ReadyToAnswer Brick.Ready operations brick.connect := by
    refine ⟨?_, ?_, ?_, ?_, ?_, trivial⟩
    all_goals
      intro _ _
      decide +kernel
  exact (run_lockstep operations brick idle small ready operations (List.prefix_refl operations)).1

end Session
end BrickControl
