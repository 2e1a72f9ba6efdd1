import BrickControl.Bytes

/-!
# Opcodes

The direct commands of the brick, each with its byte on the wire and, where the brick answers, the
length of the answer. A command with an answer is sent with a request for it, any other without.
-/
namespace BrickControl

/-- A direct command of the brick. -/
inductive Opcode where
  | startProgram | stopProgram | playSoundFile | playTone | setOutputState | setInputMode
  | getOutputState | getInputValues | resetInputScaledValue | messageWrite | resetMotorPosition
  | getBatteryLevel | stopSoundPlayback | keepAlive | lsGetStatus | lsWrite | lsRead
  | getCurrentProgramName | messageRead
  deriving DecidableEq, Repr

namespace Opcode

/-- All opcodes in the order of their bytes. -/
def all : List Opcode :=
  [.startProgram, .stopProgram, .playSoundFile, .playTone, .setOutputState, .setInputMode,
    .getOutputState, .getInputValues, .resetInputScaledValue, .messageWrite, .resetMotorPosition,
    .getBatteryLevel, .stopSoundPlayback, .keepAlive, .lsGetStatus, .lsWrite, .lsRead,
    .getCurrentProgramName, .messageRead]

/-- The byte of an opcode. -/
def byte : Opcode → UInt8
  | .startProgram => 0x00
  | .stopProgram => 0x01
  | .playSoundFile => 0x02
  | .playTone => 0x03
  | .setOutputState => 0x04
  | .setInputMode => 0x05
  | .getOutputState => 0x06
  | .getInputValues => 0x07
  | .resetInputScaledValue => 0x08
  | .messageWrite => 0x09
  | .resetMotorPosition => 0x0A
  | .getBatteryLevel => 0x0B
  | .stopSoundPlayback => 0x0C
  | .keepAlive => 0x0D
  | .lsGetStatus => 0x0E
  | .lsWrite => 0x0F
  | .lsRead => 0x10
  | .getCurrentProgramName => 0x11
  | .messageRead => 0x13

/-- The opcode of a byte. -/
def ofByte? (b : UInt8) : Option Opcode := all.find? fun op => op.byte = b

theorem ofByte?_byte (op : Opcode) : ofByte? op.byte = some op := by
  cases op <;> decide

/-- The length of the whole answer, for the commands that have one. -/
def replyLength? : Opcode → Option Nat
  | .getOutputState => some 25
  | .getInputValues => some 16
  | .getBatteryLevel => some 5
  | .keepAlive => some 7
  | .lsGetStatus => some 4
  | .lsRead => some 20
  | .getCurrentProgramName => some 22
  | .messageRead => some 64
  | _ => none

/-- The name of an opcode. -/
def name : Opcode → String
  | .startProgram => "StartProgram"
  | .stopProgram => "StopProgram"
  | .playSoundFile => "PlaySoundFile"
  | .playTone => "PlayTone"
  | .setOutputState => "SetOutputState"
  | .setInputMode => "SetInputMode"
  | .getOutputState => "GetOutputState"
  | .getInputValues => "GetInputValues"
  | .resetInputScaledValue => "ResetInputScaledValue"
  | .messageWrite => "MessageWrite"
  | .resetMotorPosition => "ResetMotorPosition"
  | .getBatteryLevel => "GetBatteryLevel"
  | .stopSoundPlayback => "StopSoundPlayback"
  | .keepAlive => "KeepAlive"
  | .lsGetStatus => "LsGetStatus"
  | .lsWrite => "LsWrite"
  | .lsRead => "LsRead"
  | .getCurrentProgramName => "GetCurrentProgramName"
  | .messageRead => "MessageRead"

end Opcode

/-- Whether the brick should answer a request. -/
inductive ReplyMode where
  | expected
  | noReply
  deriving DecidableEq, Repr

namespace ReplyMode

/-- The control byte of a mode. -/
def byte : ReplyMode → UInt8
  | .expected => 0x00
  | .noReply => 0x80

/-- A request is answered when an answer is wanted. -/
def ofFlag (reply : Bool) : ReplyMode := if reply then .expected else .noReply

end ReplyMode

/-- The mode in which a command is sent: an answer is asked for exactly where there is one. -/
def Opcode.replyMode (op : Opcode) : ReplyMode := .ofFlag op.replyLength?.isSome

/-! ### The limits of the protocol -/

namespace Limits

/-- The first byte of every answer. -/
def replyMarker : UInt8 := 0x02

/-- The longest request, with its two leading bytes. -/
def requestLength : Nat := 64

/-- The longest file name, without the zero byte that ends it. -/
def filenameLength : Nat := 18

/-- The longest mailbox message, with the zero byte that ends it. -/
def messageLength : Nat := 59

/-- The last mailbox on this side. -/
def lastInbox : UInt8 := 9

/-- The last mailbox on the brick's side. -/
def lastRemoteInbox : UInt8 := 16

/-- The longest low-speed transfer in either direction. -/
def lowSpeedLength : Nat := 16

/-- The lowest tone. -/
def lowestTone : UInt16 := 200

/-- The highest tone. -/
def highestTone : UInt16 := 14000

/-- The largest power and turn ratio, in either direction. -/
def fullPower : Int8 := 100

end Limits
end BrickControl
