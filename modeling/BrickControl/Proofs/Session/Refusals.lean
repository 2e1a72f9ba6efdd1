import BrickControl.Proofs.Command.Refusals
import BrickControl.Proofs.Session.Failures

/-!
# Arguments are looked at first

A command or a raw request with an argument outside its limits fails for it, before anything is done
with the connection: that is so in every state of the connection, and the caller's buffer stays as
it was. A failure for an argument comes from nowhere else, because moving messages and reading
replies has failures of other sorts.
-/
namespace BrickControl

private theorem CommandError.FromBelow.ofArgument {e : CommandError} (below : e.FromBelow) :
    e.ofArgument = false := by
  cases below <;> rfl

private theorem CommandError.OfMessage.ofArgument {e : CommandError} (own : e.OfMessage) :
    e.ofArgument = false := by
  cases own with
  | framing => rfl
  | device => rfl
  | portMismatch => rfl

/-- The buffer that the caller gets back. -/
def Result.buffer? : Result → Option Bytes
  | .answered _ _ => none
  | .filled ended => some ended.buffer

/-- The buffer that the caller hands over. -/
def Operation.buffer? : Operation → Option Bytes
  | .plain _ => none
  | .lowSpeedRead _ buffer | .messageRead _ _ _ buffer => some buffer

private theorem Operation.buffer?_yield (operation : Operation) (e : CommandError) :
    (operation.yield (.error e)).buffer? = operation.buffer? := by
  cases operation with
  | plain command => rfl
  | lowSpeedRead port buffer => rfl
  | messageRead remote inbox remove buffer => rfl

namespace Connection

variable {σ : Type} [Backend σ]

/-- What goes wrong with an accepted command is not about its arguments. -/
theorem Failed.ofArgument {command : Command} {start : Connection σ} {e : CommandError}
    (failed : Failed command start e) : e.ofArgument = false := by
  cases failed with
  | below cause => exact (fromBelow_ofFrame cause).ofArgument
  | cut => rfl
  | invalid _ _ _ invalid => exact (validate_ofMessage invalid).ofArgument
  | portMismatch => rfl
  | shortReply => rfl

private theorem transmit_ofArgument {request : Bytes} {connection : Connection σ} {e : CommandError}
    (failed : ((transmit request).run connection).1 = .error e) : e.ofArgument = false := by
  rcases wrote : write request connection with ⟨e' | n, after⟩
  · obtain ⟨cause, rfl⟩ := write_error wrote
    rw [transmit_failed wrote] at failed
    cases failed
    exact (fromBelow_ofFrame cause).ofArgument
  · by_cases whole : n = request.length
    · subst whole
      rw [transmit_whole wrote] at failed
      cases failed
    · rw [transmit_cut wrote whole] at failed
      cases failed
      rfl

private theorem perform_ofArgument_iff (command : Command) (connection : Connection σ)
    {e : CommandError} (ofArgument : e.ofArgument = true) :
    (perform command connection).1 = .error e ↔ command.Refused e := by
  constructor
  · intro failed
    -- The check comes first, and what comes after it fails for other reasons.
    cases checked : command.check with
    | error e' =>
      rw [perform_refused checked] at failed
      cases failed
      exact (command.check_error_iff _).mp checked
    | ok =>
      have other := (perform_failed checked failed).ofArgument
      rw [ofArgument] at other
      cases other
  · intro refused
    rw [perform_refused ((command.check_error_iff e).mpr refused)]

/-- A payload that is too long for a request is refused at once. -/
theorem send_long {mode : ReplyMode} {op : Opcode} {payload : Bytes} (long : 62 < payload.length)
    (connection : Connection σ) :
    (send mode op payload).run connection =
      (.error (.invalidArgument "request payload too large"), connection) := by
  have refused : rawRequest mode op payload =
      .error (.invalidArgument "request payload too large") := if_pos long
  have stopped : (Act.ofExcept (rawRequest mode op payload)).run connection =
      (.error (.invalidArgument "request payload too large"), connection) := by
    rw [refused]
    rfl
  exact Act.bind_run_error stopped _

private theorem send_short {mode : ReplyMode} {op : Opcode} {payload : Bytes}
    (short : ¬62 < payload.length) (connection : Connection σ) :
    (send mode op payload).run connection =
      (transmit (mode.byte :: op.byte :: payload)).run connection := by
  have built : rawRequest mode op payload = .ok (mode.byte :: op.byte :: payload) := if_neg short
  have known : (Act.ofExcept (rawRequest mode op payload)).run connection =
      (.ok (mode.byte :: op.byte :: payload), connection) := by
    rw [built]
    rfl
  exact Act.bind_run_ok known _

private theorem send_ofArgument_iff (mode : ReplyMode) (op : Opcode) (payload : Bytes)
    (connection : Connection σ) {e : CommandError} (ofArgument : e.ofArgument = true) :
    ((send mode op payload).run connection).1 = .error e ↔
      62 < payload.length ∧ e = .invalidArgument "request payload too large" := by
  by_cases long : 62 < payload.length
  · rw [send_long long]
    simp [long, eq_comm]
  · -- A payload that fits is transmitted, and that fails for other reasons.
    rw [send_short long]
    constructor
    · intro failed
      rw [transmit_ofArgument failed] at ofArgument
      cases ofArgument
    · rintro ⟨impossible, _⟩
      exact absurd impossible long

end Connection

/-- An operation fails for an argument exactly where one is outside its limits, and a raw request
exactly where its payload is too long. Then the connection is what it was, and so are a journal of
the calls on its backend and the caller's buffer. -/
theorem arguments_checked_first {σ : Type} [Backend σ] (operation : Operation) (mode : ReplyMode)
    (op : Opcode) (payload : Bytes) (connection : Connection σ)
    (journaled : Connection (Journaled σ)) :
    let performed := operation.perform connection
    let sent := (Connection.send mode op payload).run connection
    let tooLarge := CommandError.invalidArgument "request payload too large"
    (∀ e, e.ofArgument = true →
      (performed.1.error? = some e ↔ operation.command.Refused e) ∧
      (sent.1 = .error e ↔ 62 < payload.length ∧ e = tooLarge)) ∧
    (∀ e, operation.command.Refused e →
      e.ofArgument = true ∧ performed.1.error? = some e ∧
      performed.1.buffer? = operation.buffer? ∧ performed.2 = connection ∧
      (operation.perform journaled).2 = journaled) ∧
    (62 < payload.length →
      sent = (.error tooLarge, connection) ∧
      ((Connection.send mode op payload).run journaled).2 = journaled) := by
  intro performed sent tooLarge
  have ends : performed = (operation.yield (Connection.perform operation.command connection).1,
      (Connection.perform operation.command connection).2) := operation.perform_eq connection
  refine ⟨?_, ?_, ?_⟩
  · intro e ofArgument
    refine ⟨?_, Connection.send_ofArgument_iff mode op payload connection ofArgument⟩
    rw [ends, ← Connection.perform_ofArgument_iff operation.command connection ofArgument]
    constructor
    · intro failed
      -- A buffer that is too small is the one failure that an operation adds itself.
      rcases Operation.yield_error failed with same | ⟨needed, available, rfl⟩
      · exact same
      · cases ofArgument
    · intro failed
      rw [failed]
      exact operation.error?_yield e
  · intro e refused
    have checked := (operation.command.check_error_iff e).mpr refused
    rw [ends, operation.perform_eq journaled, Connection.perform_refused checked,
      Connection.perform_refused checked]
    exact ⟨refused.ofArgument, operation.error?_yield e, operation.buffer?_yield e, rfl, rfl⟩
  · intro long
    exact ⟨Connection.send_long long connection,
      congrArg Prod.snd (Connection.send_long long journaled)⟩

/-- Both mailboxes are wrong, and the connection is closed besides; and 63 bytes of payload. -/
theorem arguments_checked_first_mailboxes :
    let backend : Rehearsal := { supply := .stream [1, 0, 2] }
    let connection : Connection Rehearsal := ⟨.stream, false, backend⟩
    let operation : Operation := .messageRead 17 10 true [7, 8]
    let reason := CommandError.invalidArgument "remote mailbox index must be 0 to 16"
    let performed := operation.perform connection
    let payload := List.replicate 63 1
    let sent := (Connection.send .noReply .lsWrite payload).run connection
    operation.command.Refused reason ∧ performed.1.error? = some reason ∧
    performed.1.buffer? = some [7, 8] ∧ performed.2 = connection ∧
    62 < payload.length ∧
    sent = (.error (.invalidArgument "request payload too large"), connection) := by
  intro backend connection operation reason performed payload sent
  have refused : operation.command.Refused reason := .remoteInbox (by decide)
  have long : 62 < payload.length := by simp [payload]
  obtain ⟨_, unchanged, tooLarge⟩ := arguments_checked_first operation .noReply .lsWrite payload
    connection ⟨.stream, false, ⟨backend, []⟩⟩
  obtain ⟨_, failed, buffer, still, _⟩ := unchanged reason refused
  exact ⟨refused, failed, buffer, still, long, (tooLarge long).1⟩

end BrickControl
