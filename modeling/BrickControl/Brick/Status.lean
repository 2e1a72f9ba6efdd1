import BrickControl.Bytes

/-!
# Device status

The byte with which the brick reports how a request went. Known codes have a meaning; any other
code is kept as it is.
-/
namespace BrickControl

/-- A status other than success. -/
inductive DeviceStatus where
  | pendingCommunication | mailboxQueueEmpty | requestFailed | unknownOpcode | insanePacket
  | outOfRange | busError | bufferOutOfMemory | connectionNotValid | connectionNotConfigured
  | noActiveProgram | illegalSize | illegalMailboxQueue | invalidField | badInputOutput
  | insufficientMemory | badArguments
  | unknown (code : UInt8)
  deriving DecidableEq, Repr

namespace DeviceStatus

/-- The meaning of a code. -/
def ofCode (code : UInt8) : DeviceStatus :=
  match code with
  | 0x20 => .pendingCommunication
  | 0x40 => .mailboxQueueEmpty
  | 0xBD => .requestFailed
  | 0xBE => .unknownOpcode
  | 0xBF => .insanePacket
  | 0xC0 => .outOfRange
  | 0xDD => .busError
  | 0xDE => .bufferOutOfMemory
  | 0xDF => .connectionNotValid
  | 0xE0 => .connectionNotConfigured
  | 0xEC => .noActiveProgram
  | 0xED => .illegalSize
  | 0xEE => .illegalMailboxQueue
  | 0xEF => .invalidField
  | 0xF0 => .badInputOutput
  | 0xFB => .insufficientMemory
  | 0xFF => .badArguments
  | other => .unknown other

/-- The code of a status. -/
def code : DeviceStatus → UInt8
  | .pendingCommunication => 0x20
  | .mailboxQueueEmpty => 0x40
  | .requestFailed => 0xBD
  | .unknownOpcode => 0xBE
  | .insanePacket => 0xBF
  | .outOfRange => 0xC0
  | .busError => 0xDD
  | .bufferOutOfMemory => 0xDE
  | .connectionNotValid => 0xDF
  | .connectionNotConfigured => 0xE0
  | .noActiveProgram => 0xEC
  | .illegalSize => 0xED
  | .illegalMailboxQueue => 0xEE
  | .invalidField => 0xEF
  | .badInputOutput => 0xF0
  | .insufficientMemory => 0xFB
  | .badArguments => 0xFF
  | .unknown code => code

/-- Reading a code loses nothing. -/
theorem code_ofCode (c : UInt8) : (ofCode c).code = c := by
  unfold ofCode
  split <;> rfl

/-- The text of a status. -/
def description : DeviceStatus → String
  | .pendingCommunication => "pending communication transaction in progress"
  | .mailboxQueueEmpty => "specified mailbox queue is empty"
  | .requestFailed => "request failed (e.g. specified file not found)"
  | .unknownOpcode => "unknown command opcode"
  | .insanePacket => "insane packet"
  | .outOfRange => "data contains out-of-range values"
  | .busError => "communication bus error"
  | .bufferOutOfMemory => "no free memory in communication buffer"
  | .connectionNotValid => "specified channel/connection is not valid"
  | .connectionNotConfigured => "specified channel/connection not configured or busy"
  | .noActiveProgram => "no active program"
  | .illegalSize => "illegal size specified"
  | .illegalMailboxQueue => "illegal mailbox queue ID specified"
  | .invalidField => "attempted to access invalid field of a structure"
  | .badInputOutput => "bad input or output specified"
  | .insufficientMemory => "insufficient memory available"
  | .badArguments => "bad arguments"
  | .unknown _ => "unknown brick error"

end DeviceStatus
end BrickControl
