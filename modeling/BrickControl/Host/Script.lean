import BrickControl.Bytes
import BrickControl.Host.Errno

/-!
# What a host will answer

A host is known by what it answers to the calls made on it. A script holds the answers in store,
one queue for each kind of call, first come first served; a queue that is used up goes on with the
ordinary answer of its call.
-/
namespace BrickControl

/-- The list of radio adapters: entries of number and state, and the count that is reported. -/
structure AdapterList where
  entries : List (Nat × Nat)
  count : Nat
  deriving DecidableEq, Repr

/-- The peers that an inquiry finds, as stored octets, and the count that is reported. -/
structure InquiryAnswer where
  peers : List Bytes
  count : Nat
  deriving DecidableEq, Repr

/-- The end of an outgoing bulk transfer: its code, and how much was taken if not everything. -/
structure BulkOut where
  code : Int
  taken : Option Nat
  deriving DecidableEq, Repr

/-- The end of an incoming bulk transfer: its code and the bytes that came. -/
structure BulkIn where
  code : Int
  data : Bytes
  deriving DecidableEq, Repr

/-- The answers that a host has in store. -/
structure Script where
  socket : List (Except Errno Unit) := []
  bind : List (Except Errno Unit) := []
  connect : List (Except Errno Unit) := []
  setOption : List (Except Errno Unit) := []
  adapters : List (Except Errno AdapterList) := []
  inquiry : List (Except Errno InquiryAnswer) := []
  /-- Packets from the adapter. -/
  read : List (Except Errno Bytes) := []
  /-- How much of a command the adapter takes. -/
  write : List (Except Errno (Option Nat)) := []
  /-- How much of an outgoing piece the radio link takes. -/
  send : List (Except Errno (Option Nat)) := []
  /-- How much the radio link gives at once. -/
  receive : List (Except Errno (Option Nat)) := []
  /-- The bytes that the peer sends over the radio link. -/
  stream : Bytes := []
  close : List (Except Errno Unit) := []
  /-- Whether the USB device is there. -/
  usbOpen : List Bool := []
  claim : List Int := []
  release : List Int := []
  bulkOut : List BulkOut := []
  bulkIn : List BulkIn := []

namespace Script

/-- A host without radio sockets and without a USB device, for as many calls as one command line
can make. -/
def withoutDevices : Script where
  socket := List.replicate 4 (.error Errno.familyNotSupported)
  usbOpen := List.replicate 4 false

end Script
end BrickControl
