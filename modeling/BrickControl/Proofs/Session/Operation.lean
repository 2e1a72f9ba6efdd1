import BrickControl.Connection

/-!
# Sessions

A session performs one command after another on a connection. `Command.interpret` says what a
command makes of a reply packet, without regard to the link that brought it; `perform_query` and
`perform_silent` reduce a command to one write and at most one read of the connection. So a link
that moves messages whole decides nothing but which packet a query gets.
-/
namespace BrickControl

/-- A command with its arguments and, where the data goes to the caller, the caller's buffer. -/
inductive Operation where
  | plain (command : Command)
  | lowSpeedRead (port : InputPort) (buffer : Bytes)
  | messageRead (remote inbox : UInt8) (remove : Bool) (buffer : Bytes)
  deriving DecidableEq, Repr

/-- What the caller of an operation gets. -/
inductive Result where
  | answered (command : Command) (outcome : Except CommandError command.Answer)
  | filled (ended : Filled CommandError)

namespace Command

/-- The end of a command whose answer has this payload. -/
def conclude (command : Command) (payload : Bytes) : Except CommandError command.Answer :=
  match command.decode? payload with
  | some outcome => outcome
  | none =>
    .error (.framing (.shortReply (command.opcode.replyLength?.getD 0)
      (replyHeaderLength + payload.length)))

/-- What a command makes of a reply packet. A command that awaits no reply ignores it. -/
def interpret (command : Command) (packet : Bytes) : Except CommandError command.Answer :=
  match command.opcode.replyLength? with
  | none => command.conclude []
  | some size =>
    match validate command.opcode size (min packet.length size)
        (Bytes.overlay packet (List.replicate size 0)) with
    | .ok reply => command.conclude (reply.drop replyHeaderLength)
    | .error e => .error e

/-- The command gets as far as its read on a link that takes its request. -/
def awaits (command : Command) : Bool :=
  command.check.isOk && command.opcode.replyLength?.isSome

theorem awaits_of_refused {command : Command} {e : CommandError}
    (refused : command.check = .error e) : command.awaits = false := by
  rw [awaits, refused]
  rfl

theorem awaits_of_accepted {command : Command} (accepted : command.check = .ok ()) :
    command.awaits = command.opcode.replyLength?.isSome := by
  rw [awaits, accepted]
  rfl

end Command

namespace Operation

def command : Operation → Command
  | .plain command => command
  | .lowSpeedRead port _ => .lsRead port
  | .messageRead remote inbox remove _ => .messageRead remote inbox remove

/-- What the caller gets when the command ends in this way. -/
def yield : (operation : Operation) → Except CommandError operation.command.Answer → Result
  | .plain command, outcome => .answered command outcome
  | .lowSpeedRead _ buffer, .ok transfer => .filled (transfer.fill buffer)
  | .lowSpeedRead _ buffer, .error e => .filled ⟨.error e, buffer⟩
  | .messageRead _ _ _ buffer, .ok transfer => .filled (transfer.fill buffer)
  | .messageRead _ _ _ buffer, .error e => .filled ⟨.error e, buffer⟩

variable {σ : Type} [Backend σ]

def perform : Operation → Connection σ → Result × Connection σ
  | .plain command, connection =>
    match Connection.perform command connection with
    | (outcome, connection) => (.answered command outcome, connection)
  | .lowSpeedRead port buffer, connection =>
    match Connection.lowSpeedRead port buffer connection with
    | (ended, connection) => (.filled ended, connection)
  | .messageRead remote inbox remove buffer, connection =>
    match Connection.messageRead remote inbox remove buffer connection with
    | (ended, connection) => (.filled ended, connection)

/-- An operation is its command, with the outcome made into what the caller gets. -/
theorem perform_eq (operation : Operation) (connection : Connection σ) :
    operation.perform connection =
      (operation.yield (Connection.perform operation.command connection).1,
        (Connection.perform operation.command connection).2) := by
  cases operation with
  | plain command => rfl
  | lowSpeedRead port buffer =>
    simp only [perform, Connection.lowSpeedRead, Connection.fillFrom, command]
    cases Connection.perform (.lsRead port) connection with
    | mk outcome after => cases outcome <;> rfl
  | messageRead remote inbox remove buffer =>
    simp only [perform, Connection.messageRead, Connection.fillFrom, command]
    cases Connection.perform (.messageRead remote inbox remove) connection with
    | mk outcome after => cases outcome <;> rfl

end Operation

namespace Session

variable {σ : Type} [Backend σ]

/-- Performs the operations one after the other. -/
def run : List Operation → Connection σ → List Result × Connection σ
  | [], connection => ([], connection)
  | operation :: rest, connection =>
    ((operation.perform connection).1 :: (run rest (operation.perform connection).2).1,
      (run rest (operation.perform connection).2).2)

/-- `ready` holds of the backend whenever an operation starts that gets as far as its read. -/
def ReadyToAnswer (ready : σ → Prop) : List Operation → Connection σ → Prop
  | [], _ => True
  | operation :: rest, connection =>
    (operation.command.awaits → ready connection.backend) ∧
      ReadyToAnswer ready rest (operation.perform connection).2

end Session

namespace Connection

variable {σ : Type} [Backend σ] {command : Command} {connection sent after : Connection σ}

/-- No reply is shorter than its header. -/
theorem replyHeaderLength_le_of_replyLength {op : Opcode} {size : Nat}
    (length : op.replyLength? = some size) : replyHeaderLength ≤ size := by
  cases op <;> simp_all [Opcode.replyLength?, replyHeaderLength] <;> omega

theorem encode_of_check (accepted : command.check = .ok ()) :
    command.encode = .ok command.request := by
  simp only [Command.encode, accepted]

omit [Backend σ] in
theorem encode_run (accepted : command.check = .ok ()) (connection : Connection σ) :
    (Act.ofExcept command.encode : Act (Connection σ) CommandError Bytes).run connection =
      (.ok command.request, connection) :=
  congrArg (·, connection) (encode_of_check accepted)

theorem transmit_whole {request : Bytes}
    (wrote : write request connection = (.ok request.length, after)) :
    (transmit request).run connection = (.ok (), after) := by
  have ended : (write request).run connection = (.ok request.length, after) := wrote
  rw [transmit, Act.bind_run_ok ended]
  simp only [ne_eq, not_true_eq_false, if_false, Act.pure_run]

theorem receive_heard {size count : Nat} (op : Opcode) {held : Bytes}
    (header : replyHeaderLength ≤ size)
    (heard : read (List.replicate size 0) connection = (⟨.ok count, held⟩, after)) :
    (receive size op).run connection = (validate op size count held, after) := by
  have enough : ¬ size < replyHeaderLength := by omega
  simp only [Act.run, receive, if_neg enough, heard]

theorem perform_refused {e : CommandError} (refused : command.check = .error e) :
    perform command connection = (.error e, connection) := by
  have stopped : (Act.ofExcept command.encode).run connection = (.error e, connection) := by
    simp only [Act.run, Act.ofExcept, Command.encode, refused]
  exact Act.bind_run_error stopped _

theorem perform_unsent {e : CommandError} (accepted : command.check = .ok ())
    (failed : (transmit command.request).run connection = (.error e, after)) :
    perform command connection = (.error e, after) :=
  (Act.bind_run_ok (encode_run accepted connection) _).trans (Act.bind_run_error failed _)

/-- A command without a reply ends with its write, and a packet would make no difference. -/
theorem perform_silent (accepted : command.check = .ok ())
    (silent : command.opcode.replyLength? = none)
    (wrote : write command.request connection = (.ok command.request.length, after))
    (packet : Bytes) : perform command connection = (command.interpret packet, after) := by
  refine (Act.bind_run_ok (encode_run accepted _) _).trans
    ((Act.bind_run_ok (transmit_whole wrote) _).trans ?_)
  simp only [silent, pure_bind, Command.interpret, Command.conclude]
  -- Without a reply there are no fields, so the command decodes an empty payload.
  cases command.decode? [] with
  | some outcome => rfl
  | none => rfl

/-- Once the request is sent, what is left of a command is to receive and to conclude. -/
theorem perform_received {size : Nat} {outcome : Except CommandError Bytes}
    (accepted : command.check = .ok ()) (length : command.opcode.replyLength? = some size)
    (wrote : write command.request connection = (.ok command.request.length, sent))
    (received : (receive size command.opcode).run sent = (outcome, after)) :
    perform command connection =
      (outcome.bind fun reply => command.conclude (reply.drop replyHeaderLength), after) := by
  refine (Act.bind_run_ok (encode_run accepted _) _).trans
    ((Act.bind_run_ok (transmit_whole wrote) _).trans ?_)
  rw [length]
  -- A refused reply is the end, and an accepted one is decoded without its header.
  cases outcome with
  | error e => exact Act.bind_run_error received _
  | ok reply =>
    refine (Act.bind_run_ok received _).trans ?_
    simp only [pure_bind, Except.bind, Command.conclude, length]
    cases command.decode? (reply.drop replyHeaderLength) with
    | some outcome => rfl
    | none => rfl

/-- What a query gets is what its command makes of the packet that was read. -/
theorem perform_query {size : Nat} {packet : Bytes} (accepted : command.check = .ok ())
    (length : command.opcode.replyLength? = some size)
    (wrote : write command.request connection = (.ok command.request.length, sent))
    (heard : read (List.replicate size 0) sent =
      (⟨.ok (min packet.length size), Bytes.overlay packet (List.replicate size 0)⟩, after)) :
    perform command connection = (command.interpret packet, after) := by
  have header := replyHeaderLength_le_of_replyLength length
  rw [perform_received accepted length wrote (receive_heard _ header heard), Command.interpret,
    length]
  dsimp only
  cases validate command.opcode size (min packet.length size)
      (Bytes.overlay packet (List.replicate size 0)) with
  | error e => rfl
  | ok reply => rfl

end Connection
end BrickControl
