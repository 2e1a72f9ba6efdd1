import BrickControl.Backend
import BrickControl.Command

/-!
# Replies

An answer of the brick starts with a marker, the opcode of its request and a status; the fields of
the command follow. `validate` checks the start, in this order, and `decode` reads the fields.
-/
namespace BrickControl

/-- Reads fields off the front of a payload, and fails where the payload is too short. -/
abbrev FieldReader := StateT Bytes Option

namespace FieldReader

/-- One byte. -/
def byte : FieldReader UInt8 := fun data =>
  match data with
  | [] => none
  | b :: rest => some (b, rest)

/-- A number of `width` bytes. -/
def number (width : Nat) : FieldReader Nat := fun data =>
  if width ≤ data.length then some (Bytes.value (data.take width), data.drop width) else none

/-- A flag, which is set by any byte but zero. -/
def flag : FieldReader Bool := do return (← byte) ≠ 0

def signed : FieldReader Int8 := do return (← byte).toInt8
def word : FieldReader UInt16 := do return UInt16.ofNat (← number 2)
def long : FieldReader UInt32 := do return UInt32.ofNat (← number 4)
def signedWord : FieldReader Int16 := do return (← word).toInt16
def signedLong : FieldReader Int32 := do return (← long).toInt32

/-- All bytes that are left. -/
def rest : FieldReader Bytes := fun data => some (data, [])

end FieldReader

/-- Data in an answer: the length that the brick reports, and the area that holds the data. -/
structure Transfer where
  length : UInt8
  area : Bytes
  deriving DecidableEq, Repr

/-- Copies the data to the front of a buffer. Where the area or the buffer is shorter than the
reported length, what there is and what fits is copied, and the transfer fails. -/
def Transfer.fill (transfer : Transfer) (buffer : Bytes) : Filled CommandError :=
  let needed := transfer.length.toNat
  let available := min transfer.area.length buffer.length
  ⟨if needed ≤ available then .ok needed else .error (.bufferTooSmall needed available),
    Bytes.overlay (transfer.area.take needed) buffer⟩

/-- The length of an answer's marker, opcode and status. -/
def replyHeaderLength : Nat := 3

/-- The status of a low-speed transaction that is still going on. -/
def pendingStatus : UInt8 := 0x20

/-- Checks an answer of `size` bytes of which `count` were reported. A low-speed sensor that is
still busy has nothing ready, and its answer reads so; any other status is a failure. -/
def validate (op : Opcode) (size count : Nat) (held : Bytes) : Except CommandError Bytes :=
  if count ≠ size then .error (.framing (.shortReply size count))
  else match held with
    | marker :: echoed :: status :: payload =>
      if marker ≠ Limits.replyMarker then .error (.framing (.badMarker marker))
      else if echoed ≠ op.byte then .error (.framing (.opcodeMismatch op.byte echoed))
      else if status = 0 then .ok held
      -- Nothing is ready yet, so the payload says nothing and reads as zero.
      else if status = pendingStatus ∧ op = .lsGetStatus then
        .ok (marker :: echoed :: 0 :: List.replicate payload.length 0)
      else .error (.device (.ofCode status))
    | short => .error (.framing (.shortReply size short.length))

namespace Command

/-- What a command yields. -/
abbrev Answer : Command → Type
  | .getOutputState _ => OutputReading
  | .getInputValues _ => InputReading
  | .getBatteryLevel => UInt16
  | .keepAlive => UInt32
  | .lsGetStatus _ => UInt8
  | .lsRead _ => Transfer
  | .getCurrentProgramName => String
  | .messageRead _ _ _ => Transfer
  | _ => Unit

/-- The longest program name in an answer. -/
def programNameLength : Nat := Limits.filenameLength + 1

open FieldReader

/-- The state of an output, which has to be the one that was asked for. -/
def readOutput (port : OutputPort) : FieldReader (Except CommandError OutputReading) := do
  let echoed ← byte
  if echoed ≠ port.byte then return .error (.portMismatch port.byte echoed)
  let power ← signed
  let mode ← byte
  let regulation ← byte
  let turnRatio ← signed
  let runState ← byte
  let tachoLimit ← long
  let tachoCount ← signedLong
  let blockTachoCount ← signedLong
  let rotationCount ← signedLong
  return .ok {
    port, power, mode := ⟨mode⟩, regulation := ⟨regulation⟩, turnRatio, runState := ⟨runState⟩,
    tachoLimit, tachoCount, blockTachoCount, rotationCount }

/-- The readings of an input, which has to be the one that was asked for. -/
def readInput (port : InputPort) : FieldReader (Except CommandError InputReading) := do
  let echoed ← byte
  if echoed ≠ port.byte then return .error (.portMismatch port.byte echoed)
  let valid ← flag
  let calibrated ← flag
  let sensorType ← byte
  let sensorMode ← byte
  let raw ← word
  let normalized ← word
  let scaled ← signedWord
  let calibratedValue ← signedWord
  return .ok {
    port, valid, calibrated, sensorType := ⟨sensorType⟩, sensorMode := ⟨sensorMode⟩,
    raw, normalized, scaled, calibratedValue }

/-- A name field, which ends at the first zero byte. -/
def readName : FieldReader String := fun payload =>
  if programNameLength ≤ payload.length then
    let field := payload.take programNameLength
    some (Text.Utf8.decodeLossy (field.takeWhile (· ≠ 0)), payload.drop programNameLength)
  else none

/-- Data behind its length. -/
def readTransfer : FieldReader Transfer := do
  let length ← byte
  let area ← rest
  return ⟨length, area⟩

/-- Data behind a mailbox number and its length. -/
def readMessage : FieldReader Transfer := do
  let _ ← byte
  readTransfer

/-- What the payload of an answer says, unless it is too short for its fields. -/
def decode? : (command : Command) → Bytes → Option (Except CommandError command.Answer)
  | .getOutputState port, payload => (readOutput port).run' payload
  | .getInputValues port, payload => (readInput port).run' payload
  | .getBatteryLevel, payload => (Except.ok <$> word).run' payload
  | .keepAlive, payload => (Except.ok <$> long).run' payload
  | .lsGetStatus _, payload => (Except.ok <$> byte).run' payload
  | .lsRead _, payload => (Except.ok <$> readTransfer).run' payload
  | .getCurrentProgramName, payload => (Except.ok <$> readName).run' payload
  | .messageRead _ _ _, payload => (Except.ok <$> readMessage).run' payload
  | .startProgram _, _ | .stopProgram, _ | .playSoundFile _ _, _ | .playTone _ _, _
  | .setOutputState _, _ | .setInputMode _ _ _, _ | .resetInputScaledValue _, _
  | .messageWrite _ _, _ | .resetMotorPosition _ _, _ | .stopSoundPlayback, _
  | .lsWrite _ _ _, _ => some (.ok ())

end Command
end BrickControl
