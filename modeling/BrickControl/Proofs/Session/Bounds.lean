import BrickControl.Proofs.Command.Room
import BrickControl.Proofs.Connection.Replies
import BrickControl.Proofs.Session.Slices

/-!
# Nothing is read or written out of bounds

A request always fits the block it is laid out in, and the payload of an accepted reply always has
all the bytes that its command looks at. For the fields this is a matter of their widths: `Takes`
adds them up along a reader. Data and names are copied by slices whose bounds the brick's report
takes part in.
-/
namespace BrickControl

namespace FieldReader

variable {α β : Type} {m n : Nat}

/-- With `n` bytes or more the reader succeeds, and it takes no more than `n` of them. -/
def Takes (n : Nat) (reader : FieldReader α) : Prop :=
  ∀ data : Bytes, n ≤ data.length → ∃ a rest, reader data = some (a, rest) ∧
    data.length ≤ n + rest.length

theorem takes_pure (a : α) : Takes 0 (pure a : FieldReader α) :=
  fun data _ => ⟨a, data, rfl, by omega⟩

/-- The widths of fields that are read one after the other add up. -/
theorem Takes.bind {reader : FieldReader α} {next : α → FieldReader β} (first : Takes m reader)
    (second : ∀ a, Takes n (next a)) : Takes (m + n) (reader >>= next) := by
  intro data enough
  obtain ⟨a, between, read, most⟩ := first data (by omega)
  -- What the first reader left is enough for the second one.
  obtain ⟨b, rest, read', most'⟩ := second a between (by omega)
  refine ⟨b, rest, ?_, by omega⟩
  show (reader data).bind (fun found => next found.1 found.2) = some (b, rest)
  rw [read]
  exact read'

theorem Takes.map {reader : FieldReader α} (takes : Takes n reader) (f : α → β) :
    Takes n (f <$> reader) := by
  rw [map_eq_pure_bind]
  exact takes.bind fun a => takes_pure (f a)

theorem Takes.weaken {reader : FieldReader α} (takes : Takes m reader) (more : m ≤ n) :
    Takes n reader := by
  intro data enough
  obtain ⟨a, rest, read, most⟩ := takes data (by omega)
  exact ⟨a, rest, read, by omega⟩

theorem Takes.ite {c : Prop} [Decidable c] {yes no : FieldReader α} (first : Takes n yes)
    (second : Takes n no) : Takes n (if c then yes else no) := by
  split
  · exact first
  · exact second

theorem Takes.run {reader : FieldReader α} (takes : Takes n reader) {data : Bytes}
    (enough : n ≤ data.length) : ∃ a, reader.run' data = some a := by
  obtain ⟨a, rest, read, _⟩ := takes data enough
  refine ⟨a, ?_⟩
  show (reader data).map Prod.fst = some a
  rw [read]
  rfl

theorem takes_byte : Takes 1 byte := by
  intro data enough
  cases data with
  | nil => simp at enough
  | cons b rest => exact ⟨b, rest, rfl, by rw [List.length_cons]; omega⟩

theorem takes_number (width : Nat) : Takes width (number width) := by
  intro data enough
  refine ⟨_, _, if_pos enough, ?_⟩
  rw [List.length_drop]
  omega

private theorem takes_signed : Takes 1 signed := takes_byte.map UInt8.toInt8

private theorem takes_flag : Takes 1 flag := takes_byte.map fun b => decide (b ≠ 0)

theorem takes_word : Takes 2 word := (takes_number 2).map UInt16.ofNat

theorem takes_long : Takes 4 long := (takes_number 4).map UInt32.ofNat

private theorem takes_signedWord : Takes 2 signedWord := takes_word.map UInt16.toInt16

private theorem takes_signedLong : Takes 4 signedLong := takes_long.map UInt32.toInt32

end FieldReader

namespace Command

open FieldReader

/-- With another port the answer is left after its first byte. -/
theorem takes_readOutput (port : OutputPort) : Takes 22 (readOutput port) := by
  refine Takes.weaken (m := 1 + 21) (takes_byte.bind fun echoed => .ite ?_ ?_) (by decide)
  · exact (takes_pure _).weaken (by decide)
  · exact Takes.weaken (takes_signed.bind fun _ => takes_byte.bind fun _ => takes_byte.bind fun _ =>
      takes_signed.bind fun _ => takes_byte.bind fun _ => takes_long.bind fun _ =>
      takes_signedLong.bind fun _ => takes_signedLong.bind fun _ => takes_signedLong.bind fun _ =>
      takes_pure _) (by decide)

private theorem takes_readInput (port : InputPort) : Takes 13 (readInput port) := by
  refine Takes.weaken (m := 1 + 12) (takes_byte.bind fun echoed => .ite ?_ ?_) (by decide)
  · exact (takes_pure _).weaken (by decide)
  · exact Takes.weaken (takes_flag.bind fun _ => takes_flag.bind fun _ => takes_byte.bind fun _ =>
      takes_byte.bind fun _ => takes_word.bind fun _ => takes_word.bind fun _ =>
      takes_signedWord.bind fun _ => takes_signedWord.bind fun _ => takes_pure _) (by decide)

/-- A field of full length is read as the name in front of its first zero byte. -/
theorem decode_programName {payload : Bytes} (size : payload.length = programNameLength) :
    decode? .getCurrentProgramName payload =
      some (.ok (Text.Utf8.decodeLossy ((payload.take programNameLength).takeWhile (· ≠ 0)))) := by
  have read : readName payload =
      some (Text.Utf8.decodeLossy ((payload.take programNameLength).takeWhile (· ≠ 0)),
        payload.drop programNameLength) := if_pos (Nat.le_of_eq size.symm)
  show ((readName payload).bind fun found => some (Except.ok found.1, found.2)).map Prod.fst = _
  rw [read]
  rfl

/-- A payload as long as the command expects is long enough for its fields. -/
theorem decode_whole {command : Command} {size : Nat} {payload : Bytes}
    (answered : command.opcode.replyLength? = some size) (whole : payload.length = size - 3) :
    ∃ outcome, command.decode? payload = some outcome := by
  -- The widths of an answer's fields add up to what is left of it behind its header.
  cases command with
  | getOutputState port =>
    cases answered
    exact (takes_readOutput port).run (Nat.le_of_eq whole.symm)
  | getInputValues port =>
    cases answered
    exact (takes_readInput port).run (Nat.le_of_eq whole.symm)
  | getBatteryLevel =>
    cases answered
    exact (takes_word.map Except.ok).run (Nat.le_of_eq whole.symm)
  | keepAlive =>
    cases answered
    exact (takes_long.map Except.ok).run (Nat.le_of_eq whole.symm)
  | lsGetStatus port =>
    cases answered
    exact (takes_byte.map Except.ok).run (Nat.le_of_eq whole.symm)
  | getCurrentProgramName =>
    cases answered
    exact ⟨_, decode_programName whole⟩
  -- The length of the data does not matter here, only the bytes in front of it do.
  | lsRead port =>
    cases answered
    match payload with
    | reported :: area => exact ⟨_, rfl⟩
  | messageRead remote inbox remove =>
    cases answered
    match payload with
    | box :: reported :: area => exact ⟨_, rfl⟩
  | _ => cases answered

end Command

namespace Operation

/-- What an operation makes of a payload when it takes it apart by index. The fields of an answer
are read off its front, data and names are cut out of it. -/
def readout? : Operation → Bytes → Option Result
  | .plain .getCurrentProgramName, payload =>
    (programName? payload).map fun name => .answered .getCurrentProgramName (.ok name)
  | .plain command, payload => (command.decode? payload).map (.answered command)
  | .lowSpeedRead _ buffer, payload => (lowSpeedRead? payload buffer).map .filled
  | .messageRead _ _ _ buffer, payload => (messageRead? payload buffer).map .filled

/-- The buffer for a mailbox message is as long as the longest one. -/
def Sized : Operation → Prop
  | .messageRead _ _ _ buffer => buffer.length = 59
  | _ => True

private theorem readout_decoded {command : Command} {payload : Bytes}
    {outcome : Except CommandError command.Answer} (other : command ≠ .getCurrentProgramName)
    (decoded : command.decode? payload = some outcome) :
    (plain command).readout? payload =
      some ((plain command).yield (command.conclude payload)) := by
  have plainly : (plain command).readout? payload =
      (command.decode? payload).map (.answered command) := by
    cases command with
    | getCurrentProgramName => exact absurd rfl other
    | _ => rfl
  have concluded : command.conclude payload = outcome := by rw [Command.conclude, decoded]
  rw [plainly, decoded, concluded]
  rfl

/-- A payload of the expected length has all that an operation looks at, and what the operation
makes of it is what the caller gets. -/
theorem readout_whole {operation : Operation} (sized : operation.Sized) {size : Nat}
    {payload : Bytes} (answered : operation.command.opcode.replyLength? = some size)
    (whole : payload.length = size - 3) :
    operation.readout? payload =
      some (operation.yield (operation.command.conclude payload)) := by
  -- Data and names are cut out by slices, and all other answers are read field by field.
  cases operation with
  | lowSpeedRead port buffer =>
    cases answered
    match payload with
    | reported :: area =>
      simp only [readout?, lowSpeedRead_fills]
      rfl
  | messageRead remote inbox remove buffer =>
    cases answered
    match payload with
    | box :: reported :: area =>
      have same : area.length = Limits.messageLength := by simpa [Limits.messageLength] using whole
      simp only [readout?, messageRead_fills box reported same sized]
      rfl
  | plain command =>
    by_cases named : command = .getCurrentProgramName
    · subst named
      cases answered
      have size : payload.length = Command.programNameLength := whole
      simp only [readout?, programName_eq size, Command.conclude, command,
        Command.decode_programName size]
      rfl
    · obtain ⟨outcome, decoded⟩ := Command.decode_whole answered whole
      exact readout_decoded named decoded

end Operation

/-- While a request is laid out every field finds room, and comes right behind the fields before it;
in the end the bytes in use are the request that is sent. The payload of an accepted reply has all
that an operation looks at: no field is read past its end, and no slice of it or of the caller's
buffer reaches too far, whatever length the brick reports. -/
theorem bounds_respected {σ : Type} [Backend σ] :
    (∀ command : Command, command.check = .ok () →
      (RequestBuffer.start command.opcode.replyMode command.opcode).Fits command.fields ∧
      ∃ whole, command.lay? = some whole ∧ 2 ≤ whole.length ∧ whole.length ≤ 64 ∧
        command.encode = .ok whole.laid ∧
        whole.laid = command.opcode.replyMode.byte :: command.opcode.byte ::
          command.fields.flatMap Field.bytes) ∧
    (∀ mode op payload, payload.length ≤ 62 →
      ∃ whole, (RequestBuffer.start mode op).put? payload = some whole ∧
        whole.length = 2 + payload.length ∧ rawRequest mode op payload = .ok whole.laid ∧
        whole.laid = mode.byte :: op.byte :: payload) ∧
    (∀ (operation : Operation) (size : Nat) (link after : Connection σ) (reply : Bytes),
      operation.Sized → operation.command.opcode.replyLength? = some size →
      (Connection.receive size operation.command.opcode).run link = (.ok reply, after) →
      reply.length = size ∧
        operation.readout? (reply.drop 3) =
          some (operation.yield (operation.command.conclude (reply.drop 3)))) := by
  refine ⟨?_, ?_, ?_⟩
  · intro command accepted
    constructor
    · exact RequestBuffer.fits_of_room (Nat.le_refl 2) (Command.room_of_check accepted)
    · exact Command.lay_encode accepted
  · intro mode op payload short
    exact rawRequest_put short
  · intro operation size link after reply sized answered received
    have length := Connection.length_received received
    refine ⟨length, Operation.readout_whole sized answered ?_⟩
    rw [List.length_drop, length]

/-- The longest message is sent, and a sensor reports 200 bytes, where an answer carries 16 of them
and the buffer holds two. -/
theorem bounds_respected_crowded :
    let command : Command := .messageWrite 9 (List.replicate 59 1)
    let operation : Operation := .lowSpeedRead .one [0, 0]
    let reply : Bytes := 0x02 :: 0x10 :: 0 :: 200 :: List.replicate 16 7
    let link : Connection Rehearsal := .overMessages { supply := .packets [reply] }
    let received := (Connection.receive 20 .lsRead).run link
    (∃ whole, command.lay? = some whole ∧ whole.length ≤ 64 ∧ command.encode = .ok whole.laid) ∧
    received.1 = .ok reply ∧ reply.length = 20 ∧
    operation.readout? (reply.drop 3) =
      some (.filled ⟨.error (.bufferTooSmall 200 2), [7, 7]⟩) := by
  intro command operation reply link received
  obtain ⟨requests, _, replies⟩ := @bounds_respected Rehearsal _
  obtain ⟨_, whole, laid, _, most, encoded, _⟩ := requests command (by decide +kernel)
  obtain ⟨length, read⟩ := replies operation 20 link received.2 reply trivial rfl rfl
  exact ⟨⟨whole, laid, most, encoded⟩, rfl, length, read⟩

end BrickControl
