import BrickControl.Proofs.Envelope.Receiving
import BrickControl.Proofs.Session.Performed

/-!
# Which replies are accepted

A reply is looked at in four steps: how much of it was reported, its marker, the opcode that it
echoes, its status. The first step that finds fault decides. A status is a refusal of the brick, but
for a low-speed sensor that is still busy: its reply is accepted, and reads as zeros. A command
reads its fields from an accepted reply and from no other.
-/
namespace BrickControl

/-- A low-speed sensor answers that it has nothing ready yet. -/
def StillBusy (op : Opcode) (status : UInt8) : Prop := status = 0x20 ∧ op = .lsGetStatus

/-- What becomes of a reply with this head and payload, of which `count` bytes were reported. -/
inductive Judged (op : Opcode) (size count : Nat) (marker echoed status : UInt8)
    (payload : Bytes) : Except CommandError Bytes → Prop where
  | short (cut : count ≠ size) :
      Judged op size count marker echoed status payload (.error (.framing (.shortReply size count)))
  | unmarked (whole : count = size) (strange : marker ≠ 0x02) :
      Judged op size count marker echoed status payload (.error (.framing (.badMarker marker)))
  | foreign (whole : count = size) (marked : marker = 0x02) (other : echoed ≠ op.byte) :
      Judged op size count marker echoed status payload
        (.error (.framing (.opcodeMismatch op.byte echoed)))
  | succeeded (whole : count = size) (marked : marker = 0x02) (own : echoed = op.byte)
      (fine : status = 0) :
      Judged op size count marker echoed status payload
        (.ok (marker :: echoed :: status :: payload))
  | busy (whole : count = size) (marked : marker = 0x02) (own : echoed = op.byte)
      (failed : status ≠ 0) (busy : StillBusy op status) :
      Judged op size count marker echoed status payload
        (.ok (marker :: echoed :: 0 :: List.replicate payload.length 0))
  | refused (whole : count = size) (marked : marker = 0x02) (own : echoed = op.byte)
      (failed : status ≠ 0) (final : ¬StillBusy op status) :
      Judged op size count marker echoed status payload (.error (.device (.ofCode status)))

/-- The checks of a reply judge it as it is said here. -/
theorem validate_judged (op : Opcode) (size count : Nat) (marker echoed status : UInt8)
    (payload : Bytes) :
    Judged op size count marker echoed status payload
      (validate op size count (marker :: echoed :: status :: payload)) := by
  simp only [validate]
  -- The cases are taken in the order of the checks.
  split
  next cut => exact .short cut
  next whole =>
    rw [Decidable.not_not] at whole
    split
    next strange => exact .unmarked whole strange
    next marked =>
      rw [Decidable.not_not] at marked
      split
      next other => exact .foreign whole marked other
      next own =>
        rw [Decidable.not_not] at own
        split
        next fine => exact .succeeded whole marked own fine
        next failed =>
          split
          next busy => exact .busy whole marked own failed busy
          next final => exact .refused whole marked own failed final

namespace Judged

variable {op : Opcode} {size count : Nat} {marker echoed status : UInt8} {payload : Bytes}
  {outcome : Except CommandError Bytes}
  (judged : Judged op size count marker echoed status payload outcome)

include judged

private theorem short_iff (expected actual : Nat) :
    outcome = .error (.framing (.shortReply expected actual)) ↔
      count ≠ size ∧ expected = size ∧ actual = count := by
  cases judged with
  | short cut => simp [cut, eq_comm]
  | unmarked whole => simp [whole]
  | foreign whole => simp [whole]
  | succeeded whole => simp [whole]
  | busy whole => simp [whole]
  | refused whole => simp [whole]

private theorem marker_iff (byte : UInt8) :
    outcome = .error (.framing (.badMarker byte)) ↔
      count = size ∧ marker ≠ 0x02 ∧ byte = marker := by
  cases judged with
  | short cut => simp [cut]
  | unmarked whole strange => simp [whole, strange, eq_comm]
  | foreign _ marked => simp [marked]
  | succeeded _ marked => simp [marked]
  | busy _ marked => simp [marked]
  | refused _ marked => simp [marked]

private theorem opcode_iff (expected actual : UInt8) :
    outcome = .error (.framing (.opcodeMismatch expected actual)) ↔
      (count = size ∧ marker = 0x02) ∧ echoed ≠ op.byte ∧ expected = op.byte ∧ actual = echoed := by
  cases judged with
  | short cut => simp [cut]
  | unmarked _ strange => simp [strange]
  | foreign whole marked other => simp [whole, marked, other, eq_comm]
  | succeeded _ _ own => simp [own]
  | busy _ _ own => simp [own]
  | refused _ _ own => simp [own]

/-- The brick refuses where the reply is its own and has a status that is final; the status can be
read back from the refusal. -/
private theorem device_iff (refusal : DeviceStatus) :
    outcome = .error (.device refusal) ↔
      ((count = size ∧ marker = 0x02) ∧ echoed = op.byte) ∧ status ≠ 0 ∧ ¬StillBusy op status ∧
        refusal = .ofCode status ∧ refusal.code = status := by
  have verbatim := DeviceStatus.code_ofCode status
  cases judged with
  | short cut => simp [cut]
  | unmarked _ strange => simp [strange]
  | foreign _ _ other => simp [other]
  | succeeded _ _ _ fine => simp [fine]
  | busy _ _ _ _ busy => simp [busy]
  -- This is the one way in which a status decides.
  | refused whole marked own failed final =>
    constructor
    · rintro ⟨⟩
      exact ⟨⟨⟨whole, marked⟩, own⟩, failed, final, rfl, verbatim⟩
    · rintro ⟨_, _, _, rfl, _⟩
      rfl

/-- A reply is accepted where it is the own one and either succeeded or comes from a sensor that is
busy. -/
theorem ok_iff (reply : Bytes) :
    outcome = .ok reply ↔
      ((count = size ∧ marker = 0x02) ∧ echoed = op.byte) ∧
        ((status = 0 ∧ reply = marker :: echoed :: status :: payload) ∨
          (StillBusy op status ∧
            reply = marker :: echoed :: 0 :: List.replicate payload.length 0)) := by
  -- A sensor that is busy says so with a status that is not zero.
  have nonzero : StillBusy op 0 → False := by simp [StillBusy]
  cases judged with
  | short cut => simp [cut]
  | unmarked _ strange => simp [strange]
  | foreign _ _ other => simp [other]
  | succeeded whole marked own fine =>
    subst fine
    have idle : ¬StillBusy op 0 := nonzero
    simp [whole, marked, own, idle, eq_comm]
  | busy whole marked own failed busy => simp [whole, marked, own, failed, busy, eq_comm]
  | refused _ _ _ failed final => simp [failed, final]

end Judged

/-! ### A read keeps the size of the buffer -/

private theorem Envelope.length_receive {σ : Type} [Backend σ] (buffer : Bytes) (state : σ) :
    (receive buffer state).1.buffer.length = buffer.length := by
  simp only [receive]
  rcases receiveHeader state with ⟨e | length, between⟩
  · rfl
  · have size := length_fillAll (buffer.take length) between
    dsimp only
    rcases filling : fillAll (buffer.take length) between with ⟨⟨outcome, body⟩, after⟩
    rw [filling] at size
    -- The front of the buffer is filled, and behind it nothing changes.
    have whole : (body ++ buffer.drop length).length = buffer.length := by
      simp only [List.length_append, size, List.length_take, List.length_drop]
      omega
    cases outcome with
    | error e => exact whole
    | ok =>
      dsimp only
      rcases drain (length - buffer.length) after with ⟨e | _, last⟩
      · exact whole
      · exact whole

namespace Connection

variable {σ : Type} [Backend σ]

theorem length_read (buffer : Bytes) (connection : Connection σ) :
    (read buffer connection).1.buffer.length = buffer.length := by
  obtain ⟨framing, opened, backend⟩ := connection
  cases opened with
  | false => rfl
  | true =>
    cases framing with
    | message => exact Backend.length_readOnce buffer backend
    | stream => exact Envelope.length_receive buffer backend

/-- What a read of three bytes or more leaves in the buffer has the parts of a reply. -/
theorem read_parts {size : Nat} (header : 3 ≤ size) {outcome : Except CommandError Nat}
    {held : Bytes} {link after : Connection σ}
    (heard : read (List.replicate size 0) link = (⟨outcome, held⟩, after)) :
    ∃ marker echoed status payload, held = marker :: echoed :: status :: payload ∧
      payload.length = size - 3 := by
  have length := length_read (List.replicate size 0) link
  rw [heard, List.length_replicate] at length
  match held, length with
  | marker :: echoed :: status :: payload, length =>
    simp only [List.length_cons] at length
    exact ⟨marker, echoed, status, payload, rfl, by omega⟩
  | [], length | [_], length | [_, _], length =>
    -- There was room for three bytes.
    simp at length
    omega

/-- A reply that was accepted has the length that was asked for. -/
theorem length_received {size : Nat} {op : Opcode} {link after : Connection σ} {reply : Bytes}
    (received : (receive size op).run link = (.ok reply, after)) : reply.length = size := by
  by_cases header : 3 ≤ size
  · rcases heard : read (List.replicate size 0) link with ⟨⟨e | count, held⟩, last⟩
    · rw [receive_failed header heard] at received
      cases received
    · obtain ⟨marker, echoed, status, payload, rfl, length⟩ := read_parts header heard
      rw [receive_heard op header heard] at received
      have judged := validate_judged op size count marker echoed status payload
      have accepted := (judged.ok_iff reply).mp (congrArg Prod.fst received)
      -- Accepted as it is or with zeros for its payload, the reply has the size that was read.
      rcases accepted.2 with ⟨_, rfl⟩ | ⟨_, rfl⟩
      · simp only [List.length_cons]
        omega
      · simp only [List.length_cons, List.length_replicate]
        omega
  · have short : size < replyHeaderLength := Nat.not_le.mp header
    simp only [Act.run, receive, if_pos short] at received
    cases received

/-- The outcome of a receive is decided by the first of four checks that fails: the reported length,
the marker, the opcode, the status, which a refusal keeps as it is. A pending transaction of a
low-speed sensor is the one status that is accepted, as a reply of zeros. Of a reply that was not
accepted no command reads a field. -/
theorem receive_accepts_valid {size count : Nat} (header : 3 ≤ size) (op : Opcode) {held : Bytes}
    {link after : Connection σ}
    (heard : read (List.replicate size 0) link = (⟨.ok count, held⟩, after)) :
    ∃ marker echoed status payload,
      held = marker :: echoed :: status :: payload ∧ payload.length = size - 3 ∧
      let ended := (receive size op).run link
      let whole := count = size
      let marked := whole ∧ marker = 0x02
      let own := marked ∧ echoed = op.byte
      let pending := status = 0x20 ∧ op = .lsGetStatus
      ended.2 = after ∧
      (∀ expected actual, ended.1 = .error (.framing (.shortReply expected actual)) ↔
        ¬whole ∧ expected = size ∧ actual = count) ∧
      (∀ byte, ended.1 = .error (.framing (.badMarker byte)) ↔
        whole ∧ marker ≠ 0x02 ∧ byte = marker) ∧
      (∀ expected actual, ended.1 = .error (.framing (.opcodeMismatch expected actual)) ↔
        marked ∧ echoed ≠ op.byte ∧ expected = op.byte ∧ actual = echoed) ∧
      (∀ refusal, ended.1 = .error (.device refusal) ↔
        own ∧ status ≠ 0 ∧ ¬pending ∧ refusal = .ofCode status ∧ refusal.code = status) ∧
      (∀ reply, ended.1 = .ok reply ↔
        own ∧ ((status = 0 ∧ reply = held) ∨
          (pending ∧ reply = marker :: echoed :: 0 :: List.replicate (size - 3) 0))) ∧
      ∀ (command : Command) (start : Connection σ), command.check = .ok () →
        command.opcode = op → op.replyLength? = some size →
        write command.request start = (.ok command.request.length, link) →
        (∀ e, ended.1 = .error e → perform command start = (.error e, after)) ∧
        (∀ reply, ended.1 = .ok reply →
          perform command start = (command.conclude (reply.drop 3), after)) := by
  obtain ⟨marker, echoed, status, payload, parts, length⟩ := read_parts header heard
  refine ⟨marker, echoed, status, payload, parts, length, ?_⟩
  intro ended whole marked own pending
  have judged := validate_judged op size count marker echoed status payload
  have received := receive_heard op header heard
  rw [← parts] at judged
  -- From here on the judgement says all there is to say about the outcome.
  generalize validate op size count held = outcome at judged received
  have ends : ended = (outcome, after) := received
  rw [ends]
  refine ⟨rfl, judged.short_iff, judged.marker_iff, judged.opcode_iff, judged.device_iff, ?_, ?_⟩
  · intro reply
    have accepted := judged.ok_iff reply
    rwa [← parts, length] at accepted
  · rintro command start accepted rfl answered wrote
    have performed := perform_received accepted answered wrote received
    constructor
    · rintro e rfl
      exact performed
    · rintro reply rfl
      exact performed

/-- A sensor that is busy, over a stream: the fourth byte of its reply says nothing. -/
theorem receive_accepts_valid_busy :
    let command : Command := .lsGetStatus .one
    let reply : Bytes := [0x02, 0x0E, 0x20, 7]
    let start : Connection Rehearsal := .overStream { supply := .stream (4 :: 0 :: reply) }
    let link := (write command.request start).2
    let heard := read (List.replicate 4 0) link
    3 ≤ 4 ∧ heard.1.outcome = .ok 4 ∧ heard.1.buffer = reply ∧
    ((receive 4 .lsGetStatus).run link).1 = .ok [0x02, 0x0E, 0, 0] ∧
    perform command start = (.ok (0 : UInt8), heard.2) := by
  intro command reply start link heard
  have outcome : heard.1.outcome = .ok 4 := by decide +kernel
  have held : heard.1.buffer = [0x02, 0x0E, 0x20, 7] := by decide +kernel
  have wrote : (write command.request start).1 = .ok 3 := by decide +kernel
  have parts : heard = (⟨.ok 4, [0x02, 0x0E, 0x20, 7]⟩, heard.2) := by
    clear_value heard
    obtain ⟨⟨reported, buffer⟩, after⟩ := heard
    cases outcome
    cases held
    rfl
  obtain ⟨marker, echoed, status, payload, same, _, _, _, _, _, _, accepted, answered⟩ :=
    receive_accepts_valid (by decide) .lsGetStatus parts
  cases same
  have zeros : ((receive 4 .lsGetStatus).run link).1 = .ok [0x02, 0x0E, 0, 0] :=
    (accepted _).mpr ⟨⟨⟨rfl, rfl⟩, rfl⟩, .inr ⟨⟨rfl, rfl⟩, rfl⟩⟩
  have whole := (answered command start rfl rfl rfl (Prod.ext wrote rfl)).2 _ zeros
  exact ⟨by decide, outcome, held, zeros, whole⟩

end Connection
end BrickControl
