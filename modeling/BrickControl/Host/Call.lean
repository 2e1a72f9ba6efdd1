import BrickControl.Bytes
import BrickControl.Host.Errno

/-!
# Calls on a host

What a program asked of its host and what it got. Calls name the descriptor or the device handle
that they use, so that a list of calls shows what was opened, used and given back.
-/
namespace BrickControl

/-- An open socket. -/
structure Descriptor where
  number : Nat
  deriving DecidableEq, Repr

/-- An open USB device. -/
structure UsbHandle where
  number : Nat
  deriving DecidableEq, Repr

/-- The two sorts of radio sockets. -/
inductive SocketKind where
  /-- Raw packets of a local adapter. -/
  | adapter
  /-- A byte stream to a peer. -/
  | stream
  deriving DecidableEq, Repr

/-- One call with its result. -/
inductive Call where
  | socket (kind : SocketKind) (result : Except Errno Descriptor)
  | bind (on : Descriptor) (address : Bytes) (result : Except Errno Unit)
  | connect (on : Descriptor) (address : Bytes) (result : Except Errno Unit)
  | setOption (on : Descriptor) (level name : Nat) (value : Bytes) (result : Except Errno Unit)
  | adapters (on : Descriptor) (room : Nat) (result : Except Errno Unit)
  | inquiry (on : Descriptor) (request : Bytes) (result : Except Errno Unit)
  | read (on : Descriptor) (room : Nat) (result : Except Errno Nat)
  | write (on : Descriptor) (data : Bytes) (result : Except Errno Nat)
  | send (on : Descriptor) (data : Bytes) (result : Except Errno Nat)
  | receive (on : Descriptor) (room : Nat) (result : Except Errno Nat)
  | close (on : Descriptor) (result : Except Errno Unit)
  | usbOpen (vendor product : UInt16) (result : Option UsbHandle)
  | claim (on : UsbHandle) (interface : UInt8) (code : Int)
  | release (on : UsbHandle) (interface : UInt8) (code : Int)
  | bulkOut (on : UsbHandle) (endpoint : UInt8) (data : Bytes) (timeout : Nat) (code : Int)
      (count : Nat)
  | bulkIn (on : UsbHandle) (endpoint : UInt8) (room timeout : Nat) (code : Int) (count : Nat)
  | usbClose (on : UsbHandle)

end BrickControl
