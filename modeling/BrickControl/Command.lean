import BrickControl.Brick.Opcode
import BrickControl.Brick.Values
import BrickControl.Text.Utf8

/-!
# Commands

The direct commands with their arguments, and the requests that carry them: a control byte, the
opcode, and the fields of the command. Arguments outside their limits are refused before a request
is built; power, turn ratio and tone are brought into their range instead.
-/
namespace BrickControl

/-- A direct command. -/
inductive Command where
  | startProgram (name : String)
  | stopProgram
  | playSoundFile (looped : Bool) (name : String)
  /-- A tone of a frequency in Hz and a duration in milliseconds. -/
  | playTone (frequency duration : UInt16)
  | setOutputState (state : OutputState)
  | setInputMode (port : InputPort) (type : SensorType) (mode : SensorMode)
  | getOutputState (port : OutputPort)
  | getInputValues (port : InputPort)
  | resetInputScaledValue (port : InputPort)
  | messageWrite (inbox : UInt8) (data : Bytes)
  | resetMotorPosition (port : OutputPort) (relative : Bool)
  | getBatteryLevel
  | stopSoundPlayback
  | keepAlive
  | lsGetStatus (port : InputPort)
  /-- Sends data to a low-speed sensor and asks for so many bytes back. -/
  | lsWrite (port : InputPort) (data : Bytes) (replyLength : UInt8)
  | lsRead (port : InputPort)
  | getCurrentProgramName
  /-- Takes a message of the brick's mailbox through a mailbox of this side. -/
  | messageRead (remote inbox : UInt8) (remove : Bool)
  deriving DecidableEq, Repr

/-- A field of a request. -/
inductive Field where
  | byte (b : UInt8)
  | signed (n : Int8)
  | flag (b : Bool)
  | word (w : UInt16)
  | long (w : UInt32)
  | data (bytes : Bytes)
  deriving DecidableEq, Repr

/-- A field on the wire. -/
def Field.bytes : Field → Bytes
  | .byte b => [b]
  | .signed n => [n.toUInt8]
  | .flag b => [if b then 1 else 0]
  | .word w => Bytes.ofUInt16 w
  | .long w => Bytes.ofUInt32 w
  | .data bytes => bytes

/-- A power or turn ratio brought into its range. -/
def clampPower (n : Int8) : Int8 :=
  if n < -Limits.fullPower then -Limits.fullPower
  else if Limits.fullPower < n then Limits.fullPower
  else n

/-- A frequency brought into the range that the brick plays. -/
def clampTone (frequency : UInt16) : UInt16 :=
  if frequency < Limits.lowestTone then Limits.lowestTone
  else if Limits.highestTone < frequency then Limits.highestTone
  else frequency

/-- A file name has no zero byte and is not too long. -/
def checkFilename (name : String) : Except CommandError Unit :=
  let bytes := Text.Utf8.encode name
  if bytes.contains 0 then .error (.invalidArgument "filename contains a NUL byte")
  else if bytes.length > Limits.filenameLength then
    .error (.filenameTooLong bytes.length Limits.filenameLength)
  else .ok ()

namespace Command

/-- The opcode of a command. -/
def opcode : Command → Opcode
  | .startProgram _ => .startProgram
  | .stopProgram => .stopProgram
  | .playSoundFile _ _ => .playSoundFile
  | .playTone _ _ => .playTone
  | .setOutputState _ => .setOutputState
  | .setInputMode _ _ _ => .setInputMode
  | .getOutputState _ => .getOutputState
  | .getInputValues _ => .getInputValues
  | .resetInputScaledValue _ => .resetInputScaledValue
  | .messageWrite _ _ => .messageWrite
  | .resetMotorPosition _ _ => .resetMotorPosition
  | .getBatteryLevel => .getBatteryLevel
  | .stopSoundPlayback => .stopSoundPlayback
  | .keepAlive => .keepAlive
  | .lsGetStatus _ => .lsGetStatus
  | .lsWrite _ _ _ => .lsWrite
  | .lsRead _ => .lsRead
  | .getCurrentProgramName => .getCurrentProgramName
  | .messageRead _ _ _ => .messageRead

/-- Refuses arguments outside their limits. -/
def check : Command → Except CommandError Unit
  | .startProgram name | .playSoundFile _ name => checkFilename name
  | .messageWrite inbox data =>
    if inbox > Limits.lastInbox then .error (.invalidArgument "mailbox index must be 0 to 9")
    else if data.length > Limits.messageLength then
      .error (.invalidArgument "message longer than 59 bytes")
    else .ok ()
  | .lsWrite _ data replyLength =>
    if data.length > Limits.lowSpeedLength then
      .error (.invalidArgument "low-speed transmit data longer than 16 bytes")
    else if replyLength.toNat > Limits.lowSpeedLength then
      .error (.invalidArgument "low-speed receive length above 16 bytes")
    else .ok ()
  | .messageRead remote inbox _ =>
    if remote > Limits.lastRemoteInbox then
      .error (.invalidArgument "remote mailbox index must be 0 to 16")
    else if inbox > Limits.lastInbox then
      .error (.invalidArgument "local mailbox index must be 0 to 9")
    else .ok ()
  | _ => .ok ()

/-- The fields that follow the opcode. -/
def fields : Command → List Field
  | .startProgram name => [.data (Text.Utf8.encode name), .byte 0]
  | .playSoundFile looped name => [.flag looped, .data (Text.Utf8.encode name), .byte 0]
  | .playTone frequency duration => [.word (clampTone frequency), .word duration]
  | .setOutputState state =>
    [.byte state.port.byte, .signed (clampPower state.power), .byte state.mode.bits,
      .byte state.regulation.bits, .signed (clampPower state.turnRatio),
      .byte state.runState.bits, .long state.tachoLimit]
  | .setInputMode port type mode => [.byte port.byte, .byte type.bits, .byte mode.bits]
  | .getOutputState port => [.byte port.byte]
  | .getInputValues port => [.byte port.byte]
  | .resetInputScaledValue port => [.byte port.byte]
  | .messageWrite inbox data => [.byte inbox, .byte (UInt8.ofNat data.length), .data data]
  | .resetMotorPosition port relative => [.byte port.byte, .flag relative]
  | .lsGetStatus port => [.byte port.byte]
  | .lsWrite port data replyLength =>
    [.byte port.byte, .byte (UInt8.ofNat data.length), .byte replyLength, .data data]
  | .lsRead port => [.byte port.byte]
  | .messageRead remote inbox remove => [.byte remote, .byte inbox, .flag remove]
  | .stopProgram | .getBatteryLevel | .stopSoundPlayback | .keepAlive
  | .getCurrentProgramName => []

/-- The request of a command whose arguments are within their limits. -/
def request (command : Command) : Bytes :=
  command.opcode.replyMode.byte :: command.opcode.byte :: command.fields.flatMap Field.bytes

/-- The request of a command, or the reason why its arguments are refused. -/
def encode (command : Command) : Except CommandError Bytes :=
  match command.check with
  | .ok () => .ok command.request
  | .error e => .error e

end Command

/-- A request with any payload that fits. -/
def rawRequest (mode : ReplyMode) (op : Opcode) (payload : Bytes) : Except CommandError Bytes :=
  if payload.length > Limits.requestLength - 2 then
    .error (.invalidArgument "request payload too large")
  else .ok (mode.byte :: op.byte :: payload)

end BrickControl
