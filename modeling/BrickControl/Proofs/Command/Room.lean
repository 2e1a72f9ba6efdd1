import BrickControl.Proofs.Command.Limits

/-!
# Room for requests

A request can be laid out in a block of fixed size: mode and opcode first, then one field behind the
other. Nothing can be put where there is no room for it. The limits of the arguments see to it that
this never happens, and what is laid out is the request that is sent.
-/
namespace BrickControl

/-- A block for a request, with so many of its bytes in use. -/
structure RequestBuffer where
  block : Bytes
  size : block.length = Limits.requestLength
  length : Nat

namespace RequestBuffer

/-- A request without fields. -/
def start (mode : ReplyMode) (op : Opcode) : RequestBuffer where
  block := mode.byte :: op.byte :: List.replicate (Limits.requestLength - 2) 0
  size := by simp [Limits.requestLength]
  length := 2

/-- Puts bytes behind those in use, if there is room for all of them. -/
def put? (request : RequestBuffer) (data : Bytes) : Option RequestBuffer :=
  if request.length + data.length ≤ Limits.requestLength then
    some {
      block := request.block.take request.length ++
        Bytes.overlay data (request.block.drop request.length)
      size := by
        rw [List.length_append, Bytes.length_overlay, ← List.length_append, List.take_append_drop]
        exact request.size
      length := request.length + data.length }
  else none

/-- Puts one field after the other. -/
def putEach? : RequestBuffer → List Field → Option RequestBuffer
  | request, [] => some request
  | request, field :: rest =>
    match request.put? field.bytes with
    | some longer => longer.putEach? rest
    | none => none

/-- The bytes in use, which are the request so far. -/
def laid (request : RequestBuffer) : Bytes := request.block.take request.length

end RequestBuffer

/-- Lays out the request of a command in a buffer. -/
def Command.lay? (command : Command) : Option RequestBuffer :=
  (RequestBuffer.start command.opcode.replyMode command.opcode).putEach? command.fields

namespace RequestBuffer

private theorem length_laid {request : RequestBuffer}
    (within : request.length ≤ Limits.requestLength) : request.laid.length = request.length := by
  rw [laid, List.length_take, request.size]
  exact Nat.min_eq_left within

@[simp] theorem laid_start (mode : ReplyMode) (op : Opcode) :
    (start mode op).laid = [mode.byte, op.byte] := rfl

@[simp] theorem length_start (mode : ReplyMode) (op : Opcode) : (start mode op).length = 2 := rfl

/-- Where there is room, the bytes come behind those in use, and as many more are in use. -/
theorem put_fits (request : RequestBuffer) (data : Bytes)
    (room : request.length + data.length ≤ Limits.requestLength) :
    ∃ after, request.put? data = some after ∧ after.length = request.length + data.length ∧
      after.laid = request.laid ++ data := by
  refine ⟨_, if_pos room, rfl, ?_⟩
  have front : (request.block.take request.length).length = request.length :=
    length_laid (Nat.le_of_add_right_le room)
  have behind : data.length ≤ (request.block.drop request.length).length := by
    rw [List.length_drop, request.size]
    omega
  -- The front of the block is what it was, and the data stands right behind it.
  have placed : (Bytes.overlay data (request.block.drop request.length)).take data.length = data :=
    Bytes.take_overlay rfl behind
  have kept : (request.block.take request.length).take (request.length + data.length) =
      request.laid := by
    rw [List.take_of_length_le (by omega)]
    rfl
  simp only [laid, List.take_append, front, Nat.add_sub_cancel_left, placed]
  rw [kept]
  rfl

/-- Where there is room for all fields together, each of them is put and they are laid in their
order. -/
theorem putEach_fits (fields : List Field) (request : RequestBuffer)
    (room : request.length + (fields.flatMap Field.bytes).length ≤ Limits.requestLength) :
    ∃ after, request.putEach? fields = some after ∧
      after.length = request.length + (fields.flatMap Field.bytes).length ∧
      after.laid = request.laid ++ fields.flatMap Field.bytes := by
  induction fields generalizing request with
  | nil => exact ⟨request, rfl, by simp, by simp⟩
  | cons field rest ih =>
    -- Room for all of them is room for the first, and behind it for the rest.
    simp only [List.flatMap_cons, List.length_append] at room ⊢
    obtain ⟨longer, put, length, laid⟩ := put_fits request field.bytes (by omega)
    obtain ⟨after, puts, length', laid'⟩ := ih longer (by omega)
    refine ⟨after, ?_, by omega, by rw [laid', laid, List.append_assoc]⟩
    rw [putEach?, put]
    exact puts

/-- Each of these fields finds room behind the ones before it. Its bytes come right behind those in
use, which stay as they are. -/
def Fits (request : RequestBuffer) (fields : List Field) : Prop :=
  ∀ front field back, fields = front ++ field :: back →
    ∃ before after, request.putEach? front = some before ∧ before.put? field.bytes = some after ∧
      2 ≤ before.length ∧ after.length = before.length + field.bytes.length ∧
      after.length ≤ 64 ∧ after.laid = before.laid ++ field.bytes

/-- Where there is room for all fields together, none of them runs out of room on the way. -/
theorem fits_of_room {fields : List Field} {request : RequestBuffer} (head : 2 ≤ request.length)
    (room : request.length + (fields.flatMap Field.bytes).length ≤ Limits.requestLength) :
    request.Fits fields := by
  rintro front field back rfl
  -- The fields in front take their part of the room, and so does this one; those behind do not
  -- matter.
  simp only [List.flatMap_append, List.flatMap_cons, List.length_append] at room
  obtain ⟨before, puts, length, laid⟩ := putEach_fits front request (by omega)
  obtain ⟨after, put, length', laid'⟩ := put_fits before field.bytes (by omega)
  have most : Limits.requestLength = 64 := rfl
  exact ⟨before, after, puts, put, by omega, length', by omega, laid'⟩

end RequestBuffer

namespace Command

open RequestBuffer

/-- The limits of the arguments leave room for all fields. -/
theorem room_of_check {command : Command} (accepted : command.check = .ok ()) :
    (start command.opcode.replyMode command.opcode).length +
      (command.fields.flatMap Field.bytes).length ≤ Limits.requestLength := by
  have fits := command.length_request_le accepted
  rwa [length_request] at fits

/-- Accepted arguments are laid out without running out of room, and what is laid out is sent. -/
theorem lay_encode {command : Command} (accepted : command.check = .ok ()) :
    ∃ whole, command.lay? = some whole ∧ 2 ≤ whole.length ∧ whole.length ≤ 64 ∧
      command.encode = .ok whole.laid ∧
      whole.laid = command.opcode.replyMode.byte :: command.opcode.byte ::
        command.fields.flatMap Field.bytes := by
  have room := room_of_check accepted
  obtain ⟨whole, laid, length, bytes⟩ := putEach_fits command.fields _ room
  have most : whole.length ≤ 64 := length ▸ room
  rw [length_start] at length
  refine ⟨whole, laid, by omega, most, ?_, bytes⟩
  rw [bytes]
  simp only [encode, accepted]
  rfl

end Command

/-- A raw payload of up to 62 bytes is laid out behind its mode and opcode. -/
theorem rawRequest_put {mode : ReplyMode} {op : Opcode} {payload : Bytes}
    (short : payload.length ≤ 62) :
    ∃ whole, (RequestBuffer.start mode op).put? payload = some whole ∧
      whole.length = 2 + payload.length ∧ rawRequest mode op payload = .ok whole.laid ∧
      whole.laid = mode.byte :: op.byte :: payload := by
  have room : (RequestBuffer.start mode op).length + payload.length ≤ Limits.requestLength := by
    rw [RequestBuffer.length_start, Limits.requestLength]
    omega
  obtain ⟨whole, put, length, laid⟩ := RequestBuffer.put_fits _ _ room
  refine ⟨whole, put, length, ?_, laid⟩
  have fits : ¬payload.length > Limits.requestLength - 2 := Nat.not_lt.mpr short
  rw [laid, rawRequest, if_neg fits]
  rfl

end BrickControl
