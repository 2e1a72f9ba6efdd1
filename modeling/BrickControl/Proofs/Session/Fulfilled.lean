import BrickControl.Backend.Rehearsal
import BrickControl.Proofs.Command.Refusals
import BrickControl.Proofs.Connection.Replies

/-!
# Fulfilled queries

A query is fulfilled when its request goes out whole and a whole reply of success comes for it. How
the query ends then lies in the payload of this reply alone. A query that is not fulfilled fails,
and for a reason that has nothing to do with a payload.
-/
namespace BrickControl

/-- The failure is about the fields or the data of a reply that was not refused. -/
def CommandError.ofPayload : CommandError → Bool
  | .portMismatch _ _ | .bufferTooSmall _ _ => true
  | _ => false

private theorem CommandError.FromBelow.ofPayload {e : CommandError} (below : e.FromBelow) :
    e.ofPayload = false := by
  cases below <;> rfl

private theorem validate_ofPayload {op : Opcode} {size count : Nat} {held : Bytes}
    {e : CommandError} (failed : validate op size count held = .error e) : e.ofPayload = false := by
  rcases validate_error failed with ⟨violation, rfl⟩ | ⟨status, _, _, _, _, rfl⟩
  · rfl
  · rfl

private theorem Command.Refused.ofPayload {command : Command} {e : CommandError}
    (refused : command.Refused e) : e.ofPayload = false := by
  have about := refused.ofArgument
  cases e with
  | invalidArgument => rfl
  | filenameTooLong => rfl
  | _ => cases about

namespace Connection

variable {σ : Type} [Backend σ] {command : Command} {start after : Connection σ}

/-- The request of the query went out whole, and the whole reply has the marker, the opcode of the
query, the status of success and this payload. -/
def Fulfilled (command : Command) (payload : Bytes) (start after : Connection σ) : Prop :=
  command.check = .ok () ∧ ∃ size sent, command.opcode.replyLength? = some size ∧
    write command.request start = (.ok command.request.length, sent) ∧
    read (List.replicate size 0) sent =
      (⟨.ok size, 0x02 :: command.opcode.byte :: 0 :: payload⟩, after)

theorem Fulfilled.length {payload : Bytes} {size : Nat}
    (fulfilled : Fulfilled command payload start after)
    (answered : command.opcode.replyLength? = some size) : payload.length = size - 3 := by
  obtain ⟨_, _, sent, answered', _, heard⟩ := fulfilled
  cases answered.symm.trans answered'
  have length := length_read (List.replicate size 0) sent
  rw [heard] at length
  simp only [List.length_cons, List.length_replicate] at length
  omega

/-- For a query there is one reply. -/
theorem Fulfilled.unique {payload payload' : Bytes} {after' : Connection σ}
    (fulfilled : Fulfilled command payload start after)
    (fulfilled' : Fulfilled command payload' start after') :
    payload = payload' ∧ after = after' := by
  obtain ⟨_, _, _, answered, wrote, heard⟩ := fulfilled
  obtain ⟨_, _, _, answered', wrote', heard'⟩ := fulfilled'
  cases answered.symm.trans answered'
  cases wrote.symm.trans wrote'
  cases heard.symm.trans heard'
  exact ⟨rfl, rfl⟩

/-- A fulfilled query ends as its payload says. -/
theorem perform_fulfilled {payload : Bytes} (fulfilled : Fulfilled command payload start after) :
    perform command start = (command.conclude payload, after) := by
  obtain ⟨accepted, size, sent, answered, wrote, heard⟩ := fulfilled
  have received := receive_heard command.opcode (replyHeaderLength_le_of_replyLength answered) heard
  have judged := validate_judged command.opcode size size 0x02 command.opcode.byte 0 payload
  -- Nothing is wrong with the head of the reply, so it is accepted as it is.
  have valid := (judged.ok_iff _).mpr ⟨⟨⟨rfl, rfl⟩, rfl⟩, .inl ⟨rfl, rfl⟩⟩
  rw [valid] at received
  rw [perform_received accepted answered wrote received]
  rfl

/-- Every payload of the right size fulfils a query, over a backend that has the reply in store. -/
theorem fulfilled_rehearsed {payload : Bytes} {size : Nat} (accepted : command.check = .ok ())
    (answered : command.opcode.replyLength? = some size) (whole : payload.length + 3 = size) :
    let packet := 0x02 :: command.opcode.byte :: 0 :: payload
    ∃ after, Fulfilled command payload
      (overMessages ({ supply := .packets [packet] } : Rehearsal)) after := by
  intro packet
  have length : packet.length = size := whole
  let start : Connection Rehearsal := overMessages { supply := .packets [packet] }
  let sent := (write command.request start).2
  refine ⟨(read (List.replicate size 0) sent).2, accepted, size, sent, answered, rfl, ?_⟩
  refine Prod.ext ?_ rfl
  have taken : packet.take (List.replicate size (0 : UInt8)).length = packet := by
    rw [List.length_replicate, ← length, List.take_length]
  have heard : (read (List.replicate size 0) sent).1 =
      ⟨.ok (packet.take (List.replicate size (0 : UInt8)).length).length,
        Bytes.overlay (packet.take (List.replicate size (0 : UInt8)).length)
          (List.replicate size 0)⟩ := rfl
  rw [heard, taken, length, Bytes.overlay_of_length_eq (by simp [length])]

/-- Where the reply is accepted the query was fulfilled, except for the status of a sensor. -/
private theorem fulfilled_of_valid {size count : Nat} {held reply : Bytes} {sent : Connection σ}
    (settled : command.opcode ≠ .lsGetStatus) (accepted : command.check = .ok ())
    (answered : command.opcode.replyLength? = some size)
    (wrote : write command.request start = (.ok command.request.length, sent))
    (heard : read (List.replicate size 0) sent = (⟨.ok count, held⟩, after))
    (valid : validate command.opcode size count held = .ok reply) :
    Fulfilled command (reply.drop 3) start after := by
  obtain ⟨marker, echoed, status, payload, rfl, _⟩ :=
    read_parts (replyHeaderLength_le_of_replyLength answered) heard
  have judged := validate_judged command.opcode size count marker echoed status payload
  obtain ⟨⟨⟨rfl, rfl⟩, rfl⟩, ⟨rfl, rfl⟩ | ⟨⟨_, busy⟩, _⟩⟩ := (judged.ok_iff reply).mp valid
  · exact ⟨accepted, count, sent, answered, wrote, heard⟩
  -- Only a low-speed sensor can be busy.
  · exact absurd busy settled

/-- A query is fulfilled, or it fails for a reason that has nothing to do with a payload. -/
theorem fulfilled_or_failed {size : Nat} (settled : command.opcode ≠ .lsGetStatus)
    (answered : command.opcode.replyLength? = some size) (start : Connection σ) :
    (∃ payload after, Fulfilled command payload start after) ∨
      ∃ e after, perform command start = (.error e, after) ∧ e.ofPayload = false := by
  have performed := perform_performed command start
  generalize perform command start = ended at performed
  cases performed with
  | refused refused =>
    exact .inr ⟨_, _, rfl, ((command.check_error_iff _).mp refused).ofPayload⟩
  | unwritten _ unwritten =>
    obtain ⟨cause, rfl⟩ := write_error unwritten
    exact .inr ⟨_, _, rfl, (fromBelow_ofFrame cause).ofPayload⟩
  | cut => exact .inr ⟨_, _, rfl, rfl⟩
  | silent _ silent =>
    rw [answered] at silent
    cases silent
  | unread _ _ _ unread =>
    obtain ⟨cause, rfl⟩ := read_error unread
    exact .inr ⟨_, _, rfl, (fromBelow_ofFrame cause).ofPayload⟩
  | invalid _ _ _ _ invalid => exact .inr ⟨_, _, rfl, validate_ofPayload invalid⟩
  | valid accepted answered wrote heard valid =>
    exact .inl ⟨_, _, fulfilled_of_valid settled accepted answered wrote heard valid⟩

end Connection
end BrickControl
