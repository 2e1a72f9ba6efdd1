import BrickControl.Proofs.Backend.Rehearsal
import BrickControl.Proofs.Command.Decoding
import BrickControl.Proofs.Command.Layout
import BrickControl.Proofs.Session.Operation

/-!
# What a command writes

Where messages go unframed, a command with accepted arguments makes one write, and what it writes is
its request as it is laid out, whatever the backend makes of it. The decoder finds the command in
these bytes, so no two commands share them unless they are one in the ranges of their arguments.
-/
namespace BrickControl

private theorem Rehearsal.offered_write (data : Bytes) (rehearsal : Rehearsal) :
    (Backend.write data rehearsal).2.offered = rehearsal.offered ++ [data] := by
  simp only [Backend.write]
  split <;> simp [offered, calls, RehearsedCall.offered?]

private theorem Rehearsal.offered_readOnce (buffer : Bytes) (rehearsal : Rehearsal) :
    (Backend.readOnce buffer rehearsal).2.offered = rehearsal.offered := by
  simp only [Backend.readOnce, Backend.read]
  split <;> simp [offered, calls, RehearsedCall.offered?]

namespace Connection

variable {α β : Type}

/-- However the act ends, it offers these messages to the backend and leaves the connection open. -/
def Offers (act : Act (Connection Rehearsal) CommandError α) (messages : List Bytes) : Prop :=
  ∀ backend, ∃ outcome after, act.run (overMessages backend) = (outcome, overMessages after) ∧
    after.offered = backend.offered ++ messages

/-- A part that offers nothing may follow. -/
theorem Offers.bind {act : Act (Connection Rehearsal) CommandError α}
    {next : α → Act (Connection Rehearsal) CommandError β} {messages : List Bytes}
    (first : Offers act messages) (silent : ∀ a, Offers (next a) []) :
    Offers (act >>= next) messages := by
  intro backend
  obtain ⟨outcome, between, ended, offered⟩ := first backend
  -- A failure of the first part is the end, with the same messages offered.
  cases outcome with
  | error e => exact ⟨.error e, between, Act.bind_run_error ended next, offered⟩
  | ok a =>
    obtain ⟨last, after, ended', offered'⟩ := silent a between
    refine ⟨last, after, (Act.bind_run_ok ended next).trans ended', ?_⟩
    rw [offered', offered, List.append_nil]

private theorem Offers.of_ok {a : α} {next : α → Act (Connection Rehearsal) CommandError β}
    {messages : List Bytes} (rest : Offers (next a) messages) :
    Offers (Act.ofExcept (.ok a) >>= next) messages := rest

theorem offers_known (outcome : Except CommandError α) : Offers (Act.ofExcept outcome) [] :=
  fun backend => ⟨outcome, backend, rfl, (List.append_nil _).symm⟩

private theorem offers_write (data : Bytes) : Offers (write data) [data] := by
  intro backend
  exact ⟨_, (Backend.write data backend).2, rfl, Rehearsal.offered_write data backend⟩

private theorem offers_transmit (request : Bytes) : Offers (transmit request) [request] := by
  refine (offers_write request).bind fun written => ?_
  split
  · exact offers_known (.error _)
  · exact offers_known (.ok ())

private theorem offers_receive (size : Nat) (op : Opcode) : Offers (receive size op) [] := by
  intro backend
  let after := (Backend.readOnce (List.replicate size 0) backend).2
  have kept : (read (List.replicate size 0) (overMessages backend)).2 = overMessages after := rfl
  have offered : after.offered = backend.offered ++ [] :=
    (Rehearsal.offered_readOnce _ backend).trans (List.append_nil _).symm
  simp only [Act.run, receive]
  split
  · exact ⟨_, backend, rfl, (List.append_nil _).symm⟩
  · split
    next got =>
      rw [got] at kept
      exact ⟨_, after, by rw [← kept], offered⟩
    next got =>
      rw [got] at kept
      exact ⟨_, after, by rw [← kept], offered⟩

private theorem offers_end {command : Command} (payload : Bytes) (e : CommandError) :
    Offers (match command.decode? payload with
      | some outcome => Act.ofExcept outcome
      | none => Act.fail e) [] := by
  split
  · exact offers_known _
  · exact offers_known (.error e)

/-- A command with accepted arguments writes its request, once, whatever comes of it. -/
theorem offers_perform {command : Command} (accepted : command.check = .ok ()) :
    Offers (perform command) [command.request] := by
  rw [perform, encode_of_check accepted]
  -- What follows the write is at most a read.
  refine Offers.of_ok ((offers_transmit command.request).bind fun _ => ?_)
  cases command.opcode.replyLength? with
  | none => exact Offers.of_ok (offers_end [] _)
  | some size =>
    exact (offers_receive size command.opcode).bind fun reply =>
      Offers.of_ok (offers_end (reply.drop replyHeaderLength) _)

end Connection

private theorem Operation.offered_perform (operation : Operation)
    (accepted : operation.command.check = .ok ()) (backend : Rehearsal) :
    (operation.perform (Connection.overMessages backend)).2.backend.offered =
      backend.offered ++ [operation.command.request] := by
  obtain ⟨outcome, after, ended, offered⟩ := Connection.offers_perform accepted backend
  have reached : Connection.perform operation.command (Connection.overMessages backend) =
    (outcome, Connection.overMessages after) := ended
  rw [Operation.perform_eq, reached]
  exact offered

namespace Session

/-- A command with accepted arguments makes one write, with the mode, the opcode and the payload of
its layout. The bytes say which command it is, up to the ranges of its arguments: the decoder finds
it, and no other operation writes them. -/
theorem perform_layout (operation : Operation) (accepted : operation.command.check = .ok ())
    (backend : Rehearsal) :
    let command := operation.command
    let control : UInt8 := if command.opcode.replyLength?.isSome then 0x00 else 0x80
    let request := control :: command.opcode.byte :: command.payload
    (operation.perform (Connection.overMessages backend)).2.backend.offered =
      backend.offered ++ [request] ∧
    Command.ofRequest? request = some command.clamped ∧
    ∀ (other : Operation) (backend' : Rehearsal), other.command.check = .ok () →
      (other.perform (Connection.overMessages backend')).2.backend.offered =
        backend'.offered ++ [request] →
      other.command.clamped = command.clamped := by
  intro command control request
  have laid : request = command.request := command.request_payload.symm
  rw [laid]
  refine ⟨operation.offered_perform accepted backend, command.ofRequest?_request accepted, ?_⟩
  intro other backend' accepted' same
  rw [other.offered_perform accepted' backend'] at same
  have shared : other.command.request = command.request :=
    List.singleton_inj.mp (List.append_cancel_left same)
  -- The decoder reads the shared bytes as both commands.
  have read := other.command.ofRequest?_request accepted'
  rw [shared, command.ofRequest?_request accepted] at read
  exact (Option.some.inj read).symm

/-- All motors at a power and a turn ratio out of range, on a backend that takes three bytes. -/
theorem perform_layout_motors :
    let operation : Operation := .plain (.setOutputState {
      port := .all, power := 120, mode := .motorOn, regulation := .motorSync, turnRatio := -128,
      runState := .running, tachoLimit := 360 })
    let backend : Rehearsal := { supply := .packets [], writeLimit := some 3 }
    operation.command.check = .ok () ∧
    (operation.perform (Connection.overMessages backend)).2.backend.offered =
      [[0x80, 0x04, 0xFF, 100, 0x01, 0x02, 0x9C, 0x20, 0x68, 0x01, 0, 0]] := by
  intro operation backend
  have accepted : operation.command.check = .ok () := rfl
  exact ⟨accepted, (perform_layout operation accepted backend).1⟩

end Session
end BrickControl
