import BrickControl.Envelope
import BrickControl.Reply

/-!
# Connections

A connection owns a backend until it is closed. On a backend that carries messages each call is one
message; on one that carries a stream each message travels in an envelope. A closed connection does
nothing, and closing it again succeeds.
-/
namespace BrickControl

/-- How messages travel on a backend. -/
inductive Framing where
  /-- Each transfer is a message. -/
  | message
  /-- Messages are put into envelopes. -/
  | stream
  deriving DecidableEq, Repr

/-- A connection to one brick. -/
structure Connection (σ : Type) where
  framing : Framing
  isOpen : Bool
  backend : σ

namespace Connection

variable {σ : Type}

/-- A connection over a backend that carries messages. -/
def overMessages (backend : σ) : Connection σ := ⟨.message, true, backend⟩

/-- A connection over a backend that carries a byte stream. -/
def overStream (backend : σ) : Connection σ := ⟨.stream, true, backend⟩

variable [Backend σ]

/-- The name of the backend, as long as the connection is open. -/
def transportName? (connection : Connection σ) : Option String :=
  if connection.isOpen then some (Backend.name connection.backend) else none

/-- Reads one message into a buffer. -/
def read (buffer : Bytes) (connection : Connection σ) : Filled CommandError × Connection σ :=
  if connection.isOpen then
    match connection.framing with
    | .message =>
      match Backend.readOnce buffer connection.backend with
      | (⟨outcome, held⟩, backend) =>
        (⟨outcome.mapError .ofTransport, held⟩, { connection with backend })
    | .stream =>
      match Envelope.receive buffer connection.backend with
      | (⟨outcome, held⟩, backend) =>
        (⟨outcome.mapError .ofFrame, held⟩, { connection with backend })
  else (⟨.error .entityClosed, buffer⟩, connection)

/-- Writes one message; the result is how much of it was taken. -/
def write (data : Bytes) : Act (Connection σ) CommandError Nat := fun connection =>
  if connection.isOpen then
    match connection.framing with
    | .message =>
      match Backend.write data connection.backend with
      | (outcome, backend) => (outcome.mapError .ofTransport, { connection with backend })
    | .stream =>
      match Envelope.send data connection.backend with
      | (outcome, backend) => (outcome.mapError .ofFrame, { connection with backend })
  else (.error .entityClosed, connection)

/-- Gives the backend back. The connection is closed even where the backend fails to close. -/
def close : Act (Connection σ) CommandError Unit := fun connection =>
  if connection.isOpen then
    match Backend.close connection.backend with
    | (outcome, backend) =>
      (outcome.mapError .ofTransport, { connection with isOpen := false, backend })
  else (.ok (), connection)

/-- Lets go of a connection, which closes it if it is still open. -/
def drop (connection : Connection σ) : Connection σ := (close connection).2

/-- Writes a whole request. -/
def transmit (request : Bytes) : Act (Connection σ) CommandError Unit := do
  let written ← write request
  if written ≠ request.length then
    Act.fail (.framing (.shortWrite request.length written))

/-- Sends a request with any payload that fits. -/
def send (mode : ReplyMode) (op : Opcode) (payload : Bytes) :
    Act (Connection σ) CommandError Unit := do
  let request ← Act.ofExcept (rawRequest mode op payload)
  transmit request

/-- Receives an answer of `size` bytes to a command. -/
def receive (size : Nat) (op : Opcode) : Act (Connection σ) CommandError Bytes :=
  fun connection =>
    if size < replyHeaderLength then
      (.error (.invalidArgument "reply length shorter than its header"), connection)
    else
      match read (List.replicate size 0) connection with
      | (⟨.ok count, held⟩, connection) => (validate op size count held, connection)
      | (⟨.error e, _⟩, connection) => (.error e, connection)

/-- Performs a command: sends its request and, where the brick answers, awaits the answer. -/
def perform (command : Command) : Act (Connection σ) CommandError command.Answer := do
  let request ← Act.ofExcept command.encode
  transmit request
  let payload ← match command.opcode.replyLength? with
    | some size => do
      let reply ← receive size command.opcode
      pure (reply.drop replyHeaderLength)
    | none => pure []
  match command.decode? payload with
  | some outcome => Act.ofExcept outcome
  | none =>
    Act.fail (.framing (.shortReply (command.opcode.replyLength?.getD 0)
      (replyHeaderLength + payload.length)))

/-- Copies the data of an answer into the caller's buffer, which stays as it is when the command
fails. -/
def fillFrom (act : Act (Connection σ) CommandError Transfer) (buffer : Bytes)
    (connection : Connection σ) : Filled CommandError × Connection σ :=
  match act connection with
  | (.ok transfer, connection) => (transfer.fill buffer, connection)
  | (.error e, connection) => (⟨.error e, buffer⟩, connection)

/-- Reads the result of a low-speed transaction into a buffer. -/
def lowSpeedRead (port : InputPort) (buffer : Bytes) :
    Connection σ → Filled CommandError × Connection σ :=
  fillFrom (perform (.lsRead port)) buffer

/-- Reads a mailbox message into a buffer. -/
def messageRead (remote inbox : UInt8) (remove : Bool) (buffer : Bytes) :
    Connection σ → Filled CommandError × Connection σ :=
  fillFrom (perform (.messageRead remote inbox remove)) buffer

end Connection
end BrickControl
