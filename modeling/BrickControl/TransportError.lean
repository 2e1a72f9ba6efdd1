import BrickControl.Host.IoError
import BrickControl.Text.Numerals
import BrickControl.Text.Quoted
import BrickControl.Usb.Fault

/-!
# Transport errors

Everything that can go wrong below the messages: finding a brick, connecting to it, and moving
bytes. Errors of the first two sorts are *connect failures*. Messages that travel over a byte stream
can fail besides in their framing.
-/
namespace BrickControl

/-- A failure of a backend, or of the search for one. -/
inductive TransportError where
  /-- A system call on an open link failed. -/
  | io (cause : IoError)
  /-- A USB transfer failed. -/
  | usb (fault : Usb.Fault)
  /-- The radio link could not be made. -/
  | connect (address : String) (cause : IoError)
  /-- No attached USB device has this identity. -/
  | deviceNotFound (vendor product : UInt16)
  /-- The USB device is there, but it cannot be used. -/
  | claim (vendor product : UInt16) (fault : Usb.Fault)
  /-- No peer in reach carries the name. -/
  | nameNotFound (name : String)
  /-- The search for peers itself failed. -/
  | discovery (cause : IoError)
  /-- The destination is neither an address nor a name. -/
  | invalidAddress (text : String)
  /-- The backend is not part of this build. -/
  | unsupported (backend : String)
  /-- The peer takes or gives no more bytes. -/
  | disconnected
  /-- The backend was closed before. -/
  | closed
  deriving DecidableEq, Repr

namespace TransportError

/-- Raised while a connection is being made, and not on an open one. -/
def isConnectFailure : TransportError → Bool
  | .connect .. | .deviceNotFound .. | .claim .. | .nameNotFound _ | .discovery _
  | .invalidAddress _ => true
  | _ => false

/-- The call was cut short by a signal, so it can be made again. -/
def isInterruption : TransportError → Bool
  | .io cause => cause.kind = .interrupted
  | _ => false

/-- The text of an error. -/
def message : TransportError → String
  | .io cause => "transport I/O error: " ++ cause.message
  | .usb fault => "usb transfer error: " ++ fault.message
  | .connect address cause => "failed to connect to " ++ address ++ ": " ++ cause.message
  | .deviceNotFound vendor product =>
    "no usb device " ++ Text.Hex.word vendor ++ ":" ++ Text.Hex.word product ++ " found"
  | .claim vendor product fault =>
    "failed to claim usb device " ++ Text.Hex.word vendor ++ ":" ++ Text.Hex.word product ++ ": "
      ++ fault.message
  | .nameNotFound name => "no radio peer named " ++ Text.quoted name ++ " found"
  | .discovery cause => "radio discovery failed: " ++ cause.message
  | .invalidAddress text => "invalid radio destination: " ++ Text.quoted text
  | .unsupported backend => backend ++ " backend not available in this build"
  | .disconnected => "transport disconnected"
  | .closed => "transport closed"

/-- The text of the system's or the USB stack's error inside, where the error was caused by it. -/
def cause? : TransportError → Option String
  | .io cause | .connect _ cause => some cause.message
  | .usb fault | .claim _ _ fault => some fault.message
  | _ => none

end TransportError

/-- A failure to send or to receive one envelope. -/
inductive FrameError where
  /-- The stream failed, or it stopped in the middle of an envelope. -/
  | transport (cause : TransportError)
  /-- The stream gave a part of the length field and no more. -/
  | shortHeader (got : Nat)
  /-- The length field cannot hold the length of the body. -/
  | bodyTooLarge (size max : Nat)
  deriving DecidableEq, Repr

namespace FrameError

/-- The text of an error. -/
def message : FrameError → String
  | .transport cause => "frame transport error: " ++ cause.message
  | .shortHeader got => "short envelope header (" ++ toString got ++ " of 2 bytes)"
  | .bodyTooLarge size max =>
    "packet body too large (" ++ toString size ++ " bytes, max " ++ toString max ++ ")"

end FrameError
end BrickControl
