import BrickControl.Proofs.Device.Footprint
import BrickControl.Proofs.Envelope.Loops
import BrickControl.Proofs.Session.Performed

/-!
# Sending to a device

What a command without a reply leaves on its host: the calls that move its request, and no others.
Over USB this is one transfer. Over the radio the request goes out in its envelope, in pieces of any
size.
-/
namespace BrickControl

open Host (Added)

/-- A request as it travels. -/
def Framing.pack : Framing → Bytes → Bytes
  | .message, request => request
  | .stream, request => Envelope.wrap request

namespace Device

/-- These calls of the device move these bytes to the brick. -/
structure Moves (device : Device) (bytes : Bytes) (calls : List Call) : Prop where
  sends : ∀ call ∈ calls, device.Sends call
  moved : calls.flatMap Call.sent = bytes

/-- These calls of the device write one request, which is not divided where it is a message. -/
structure Writes (device : Device) (request : Bytes) (calls : List Call) : Prop where
  moves : device.Moves (device.framing.pack request) calls
  once : device.framing = .message → calls.length = 1

theorem Moves.append {device : Device} {front back : Bytes} {calls more : List Call}
    (moves : device.Moves front calls) (moves' : device.Moves back more) :
    device.Moves (front ++ back) (calls ++ more) where
  sends := List.forall_mem_append.mpr ⟨moves.sends, moves'.sends⟩
  moved := by rw [List.flatMap_append, moves.moved, moves'.moved]

/-- However the bytes are divided, each of them is moved once. -/
theorem sendAll_moves {rest : Bytes} {state ended : Device × Host}
    (sent : Envelope.sendAll rest state = (.ok (), ended)) :
    ∃ calls, ended.1 = state.1 ∧ Added state.2 calls 0 ended.2 ∧ state.1.Moves rest calls := by
  induction rest, state using Envelope.sendAll.induct with
  | case1 state =>
    rw [Envelope.sendAll, dif_pos rfl] at sent
    cases sent
    exact ⟨[], rfl, ⟨(List.append_nil _).symm, rfl⟩, List.forall_mem_nil _, rfl⟩
  | case2 rest state more e after failed =>
    rw [Envelope.sendAll, dif_neg more, failed] at sent
    cases sent
  | case3 rest state more after nothing =>
    rw [Envelope.sendAll, dif_neg more, nothing] at sent
    cases sent
  | case4 rest state more n after wrote ih =>
    obtain ⟨device, host⟩ := state
    rw [Envelope.sendAll_step more wrote] at sent
    -- A device hides no interruption of its own, so a steady write is one write.
    have piece : Backend.write rest (device, host) = (.ok (n + 1), after) := wrote
    obtain ⟨outcome, reached, calls, once, added, sends, moved⟩ := write_sends rest device host
    cases once.symm.trans piece
    obtain ⟨front, _, _⟩ := moved (n + 1) rfl
    obtain ⟨others, same, added', moves⟩ := ih sent
    have whole := Moves.append ⟨sends, front⟩ moves
    rw [List.take_append_drop] at whole
    exact ⟨calls ++ others, same, added.trans added', whole⟩

private theorem send_moves {request : Bytes} {n : Nat} {device : Device} {host : Host}
    {ended : Device × Host} (sent : Envelope.send request (device, host) = (.ok n, ended)) :
    ∃ after calls, ended = (device, after) ∧ Added host calls 0 after ∧
      device.Moves (Envelope.wrap request) calls := by
  have fits : request.length ≤ Envelope.maxBody := by
    refine Nat.not_lt.mp fun long => ?_
    simp only [Envelope.send, Envelope.encode, gt_iff_lt, if_pos long] at sent
    cases sent
  simp only [Envelope.send, Envelope.encode_eq_wrap request fits] at sent
  split at sent
  next after whole =>
    cases sent
    obtain ⟨calls, same, added, moves⟩ := sendAll_moves whole
    exact ⟨ended.2, calls, Prod.ext same rfl, added, moves⟩
  next => cases sent

private theorem write_writes {request : Bytes} {device : Device} {host : Host}
    {ended : Connection (Device × Host)}
    (wrote : Connection.write request (.overDevice device host) = (.ok request.length, ended)) :
    ∃ after calls, ended = .overDevice device after ∧ Added host calls 0 after ∧
      device.Writes request calls := by
  simp only [Connection.write, Connection.overDevice, if_true] at wrote
  cases framing : device.framing with
  | message =>
    -- The whole request was taken, so the one transfer moved all of it.
    obtain ⟨outcome, after, calls, once, added, sends, moved⟩ := write_sends request device host
    simp only [framing, once] at wrote
    cases outcome with
    | error e => cases wrote
    | ok n =>
      cases wrote
      obtain ⟨bytes, _, single⟩ := moved _ rfl
      rw [List.take_length] at bytes
      refine ⟨after, calls, ?_, added, ⟨⟨sends, ?_⟩, single⟩⟩
      · rw [Connection.overDevice, framing]
      · rw [bytes, framing]
        rfl
  | stream =>
    simp only [framing] at wrote
    cases sent : Envelope.send request (device, host) with
    | mk outcome state =>
      rw [sent] at wrote
      cases outcome with
      | error e => cases wrote
      | ok n =>
        obtain ⟨after, calls, rfl, added, moves⟩ := send_moves sent
        cases wrote
        refine ⟨after, calls, ?_, added, ⟨?_, ?_⟩⟩
        · rw [Connection.overDevice, framing]
        · rw [framing]
          exact moves
        · rw [framing]
          rintro ⟨⟩

end Device

namespace Connection

variable {σ : Type} [Backend σ] {command : Command}

/-- A command that awaits no reply has succeeded when its request is written. -/
theorem perform_silent_ok {start after : Connection σ} {answer : command.Answer}
    (silent : command.opcode.replyLength? = none)
    (performed : perform command start = (.ok answer, after)) :
    command.check = .ok () ∧ write command.request start = (.ok command.request.length, after) := by
  have ended := perform_performed command start
  rw [performed] at ended
  generalize same : (Except.ok answer : Except CommandError command.Answer) = outcome at ended
  cases ended with
  | silent accepted _ wrote => exact ⟨accepted, wrote⟩
  | refused => cases same
  | unwritten => cases same
  | cut => cases same
  | unread => cases same
  | invalid => cases same
  -- A command with an answer to read is not one of these.
  | valid accepted length =>
    rw [silent] at length
    cases length

/-- A command that awaits no reply leaves on the host the calls that write its request, and no
others. -/
theorem perform_writes {device : Device} {host : Host} {ended : Connection (Device × Host)}
    {answer : command.Answer} (silent : command.opcode.replyLength? = none)
    (performed : perform command (.overDevice device host) = (.ok answer, ended)) :
    command.check = .ok () ∧ ∃ after calls, ended = .overDevice device after ∧
      Added host calls 0 after ∧ device.Writes command.request calls := by
  obtain ⟨accepted, wrote⟩ := perform_silent_ok silent performed
  exact ⟨accepted, Device.write_writes wrote⟩

end Connection
end BrickControl
