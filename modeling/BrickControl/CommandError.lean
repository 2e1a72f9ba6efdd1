import BrickControl.Brick.Status
import BrickControl.Duration
import BrickControl.TransportError

/-!
# Command errors

Every way in which a command can fail, sorted by layer: the transport, the wire format, the brick
itself, and the caller's arguments. A transport error is routed here by its cause: a closed or
missing backend and a failed connection have cases of their own.
-/
namespace BrickControl

/-- A request or an answer that does not have its form. -/
inductive FramingViolation where
  /-- The answer has the wrong length. -/
  | shortReply (expected actual : Nat)
  /-- The answer does not start with the marker. -/
  | badMarker (byte : UInt8)
  /-- The answer belongs to another command. -/
  | opcodeMismatch (expected actual : UInt8)
  /-- The stream gave a part of the length field and no more. -/
  | shortHeader (got : Nat)
  /-- The backend took only a part of the request. -/
  | shortWrite (expected written : Nat)
  /-- The length field cannot hold the length of the message. -/
  | bodyTooLarge (size max : Nat)
  deriving DecidableEq, Repr

/-- The text of a violation. -/
def FramingViolation.message : FramingViolation → String
  | .shortReply expected actual =>
    "short reply (" ++ toString actual ++ " of " ++ toString expected ++ " bytes)"
  | .badMarker byte => "bad reply marker " ++ Text.Hex.marked byte
  | .opcodeMismatch expected actual =>
    "reply opcode " ++ Text.Hex.marked actual ++ " does not match request "
      ++ Text.Hex.marked expected
  | .shortHeader got => "short envelope header (" ++ toString got ++ " of 2 bytes)"
  | .shortWrite expected written =>
    "short write (" ++ toString written ++ " of " ++ toString expected ++ " bytes)"
  | .bodyTooLarge size max =>
    "packet body too large (" ++ toString size ++ " bytes, max " ++ toString max ++ ")"

/-- A failure of a command. -/
inductive CommandError where
  /-- Moving bytes failed. -/
  | transport (cause : TransportError)
  /-- The bytes do not have the form of a message. -/
  | framing (violation : FramingViolation)
  /-- The brick refused the request. -/
  | device (status : DeviceStatus)
  /-- An argument was refused before anything was sent. -/
  | invalidArgument (reason : String)
  /-- A file name is longer than the brick allows. -/
  | filenameTooLong (length max : Nat)
  /-- The answer holds more data than there is room for; the buffer holds what fits. -/
  | bufferTooSmall (needed available : Nat)
  /-- The connection is closed. -/
  | entityClosed
  /-- The backend is not part of this build. -/
  | backendUnavailable (backend : String)
  /-- No connection could be made. -/
  | cannotConnect (cause : TransportError)
  /-- The answer speaks of another port. -/
  | portMismatch (expected actual : UInt8)
  /-- Waiting was given up. -/
  | timeout (after : Duration)
  deriving DecidableEq, Repr

namespace CommandError

/-- A transport error as the failure of a command. -/
def ofTransport : TransportError → CommandError
  | .unsupported backend => .backendUnavailable backend
  | .closed => .entityClosed
  | cause => if cause.isConnectFailure then .cannotConnect cause else .transport cause

/-- A framing error as the failure of a command. -/
def ofFrame : FrameError → CommandError
  | .transport cause => ofTransport cause
  | .shortHeader got => .framing (.shortHeader got)
  | .bodyTooLarge size max => .framing (.bodyTooLarge size max)

/-- The status behind a failure that the brick reported. -/
def deviceStatus? : CommandError → Option DeviceStatus
  | .device status => some status
  | _ => none

/-- The connection is of no more use. -/
def isDisconnect : CommandError → Bool
  | .entityClosed | .transport .disconnected => true
  | _ => false

/-- The text of a failure. -/
def message : CommandError → String
  | .transport cause => "transport error: " ++ cause.message
  | .framing violation => "framing violation: " ++ violation.message
  | .device status =>
    "brick reported " ++ status.description ++ " (status " ++ Text.Hex.marked status.code ++ ")"
  | .invalidArgument reason => "invalid argument: " ++ reason
  | .filenameTooLong length max =>
    "filename too long (" ++ toString length ++ " bytes, max " ++ toString max ++ ")"
  | .bufferTooSmall needed available =>
    "buffer too small (" ++ toString needed ++ " bytes needed, " ++ toString available
      ++ " available)"
  | .entityClosed => "operation attempted on a closed connection"
  | .backendUnavailable backend => backend ++ " backend not available in this build"
  | .cannotConnect cause => "cannot establish connection: " ++ cause.message
  | .portMismatch expected actual =>
    "reply for port " ++ toString actual.toNat ++ " does not match requested port "
      ++ toString expected.toNat
  | .timeout after => "operation timed out after " ++ after.text

/-- The texts of the errors inside a failure, from the outermost to the innermost. -/
def causes : CommandError → List String
  | .transport cause | .cannotConnect cause => cause.message :: cause.cause?.toList
  | .framing violation => [violation.message]
  | _ => []

end CommandError
end BrickControl
