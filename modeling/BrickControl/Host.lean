import BrickControl.Act
import BrickControl.Host.Call
import BrickControl.Host.Script

/-!
# The host

The system and its USB stack as the program meets them: a script of answers, the calls made so far,
and the numbers that the next socket or device will get. Each operation takes one answer from its
queue, keeps the call, and passes the result on.
-/
namespace BrickControl

/-- A host in the course of a run. -/
structure Host where
  script : Script
  /-- The calls made so far, the latest one first. -/
  made : List Call
  /-- The number of the next socket or device. -/
  next : Nat

namespace Host

/-- A host on which nothing was called yet. -/
def ofScript (script : Script) : Host := ⟨script, [], 0⟩

/-- The calls made so far, in their order. -/
def calls (host : Host) : List Call := host.made.reverse

/-- The host after one more call. -/
def record (host : Host) (call : Call) : Host := { host with made := call :: host.made }

/-- The first answer of a queue and the rest of it, or the ordinary answer. -/
def answer {α : Type} (queue : List α) (ordinary : α) : α × List α :=
  match queue with
  | [] => (ordinary, [])
  | first :: rest => (first, rest)

/-- The part of an outgoing piece that is taken. -/
def taken (limit : Option Nat) (data : Bytes) : Nat :=
  match limit with
  | some k => min k data.length
  | none => data.length

/-- Opens a socket. -/
def socket (kind : SocketKind) : Act Host Errno Descriptor := fun host =>
  let (token, rest) := answer host.script.socket (.ok ())
  let host := { host with script := { host.script with socket := rest } }
  match token with
  | .ok () =>
    let opened := Descriptor.mk host.next
    (.ok opened, { host with next := host.next + 1 }.record (.socket kind (.ok opened)))
  | .error e => (.error e, host.record (.socket kind (.error e)))

/-- Ties an adapter socket to one adapter. -/
def bind (on : Descriptor) (address : Bytes) : Act Host Errno Unit := fun host =>
  let (token, rest) := answer host.script.bind (.ok ())
  let host := { host with script := { host.script with bind := rest } }
  (token, host.record (.bind on address token))

/-- Connects a stream socket to a peer. -/
def connect (on : Descriptor) (address : Bytes) : Act Host Errno Unit := fun host =>
  let (token, rest) := answer host.script.connect (.ok ())
  let host := { host with script := { host.script with connect := rest } }
  (token, host.record (.connect on address token))

/-- Sets an option of a socket. -/
def setOption (on : Descriptor) (level name : Nat) (value : Bytes) : Act Host Errno Unit :=
  fun host =>
    let (token, rest) := answer host.script.setOption (.ok ())
    let host := { host with script := { host.script with setOption := rest } }
    (token, host.record (.setOption on level name value token))

/-- Asks for the adapters, with room for `room` of them. -/
def adapters (on : Descriptor) (room : Nat) : Act Host Errno AdapterList := fun host =>
  let (token, rest) := answer host.script.adapters (.ok ⟨[(0, 1)], 1⟩)
  let host := { host with script := { host.script with adapters := rest } }
  (token, host.record (.adapters on room (token.map fun _ => ())))

/-- Searches for peers. -/
def inquiry (on : Descriptor) (request : Bytes) : Act Host Errno InquiryAnswer := fun host =>
  let (token, rest) := answer host.script.inquiry (.ok ⟨[], 0⟩)
  let host := { host with script := { host.script with inquiry := rest } }
  (token, host.record (.inquiry on request (token.map fun _ => ())))

/-- Reads one packet of an adapter into a buffer of `room` bytes, which cuts it. -/
def read (on : Descriptor) (room : Nat) : Act Host Errno Bytes := fun host =>
  let (token, rest) := answer host.script.read (.error Errno.tryAgain)
  let host := { host with script := { host.script with read := rest } }
  let result := token.map fun packet => packet.take room
  (result, host.record (.read on room (result.map List.length)))

/-- Gives a command to an adapter; the result is how much of it was taken. -/
def write (on : Descriptor) (data : Bytes) : Act Host Errno Nat := fun host =>
  let (token, rest) := answer host.script.write (.ok none)
  let host := { host with script := { host.script with write := rest } }
  let result := token.map fun limit => taken limit data
  (result, host.record (.write on data result))

/-- Sends over a radio link; the result is how much was taken. -/
def send (on : Descriptor) (data : Bytes) : Act Host Errno Nat := fun host =>
  let (token, rest) := answer host.script.send (.ok none)
  let host := { host with script := { host.script with send := rest } }
  let result := token.map fun limit => taken limit data
  (result, host.record (.send on data result))

/-- Receives from a radio link into a buffer of `room` bytes. -/
def receive (on : Descriptor) (room : Nat) : Act Host Errno Bytes := fun host =>
  let (token, rest) := answer host.script.receive (.ok none)
  let host := { host with script := { host.script with receive := rest } }
  match token with
  | .ok limit =>
    let size := taken limit (host.script.stream.take room)
    let data := host.script.stream.take size
    let left := { host.script with stream := host.script.stream.drop size }
    (.ok data, { host with script := left }.record (.receive on room (.ok data.length)))
  | .error e => (.error e, host.record (.receive on room (.error e)))

/-- Closes a socket, which is gone even where this fails. -/
def close (on : Descriptor) : Act Host Errno Unit := fun host =>
  let (token, rest) := answer host.script.close (.ok ())
  let host := { host with script := { host.script with close := rest } }
  (token, host.record (.close on token))

/-- Closes a socket and does not look at the result. -/
def dropSocket (on : Descriptor) (host : Host) : Host := (close on host).2

/-- Makes a call again as long as it is cut short by a signal, at most `patience` times. -/
def persist {α : Type} (act : Act Host Errno α) : Nat → Act Host Errno α
  | 0 => act
  | patience + 1 => fun host =>
    match act host with
    | (.ok a, host) => (.ok a, host)
    | (.error e, host) =>
      if e.kind = .interrupted then persist act patience host else (.error e, host)

/-- Opens the first USB device with this identity, if there is one. -/
def usbOpen (vendor product : UInt16) (host : Host) : Option UsbHandle × Host :=
  let (present, rest) := answer host.script.usbOpen true
  let host := { host with script := { host.script with usbOpen := rest } }
  if present then
    let opened := UsbHandle.mk host.next
    (some opened, { host with next := host.next + 1 }.record
      (.usbOpen vendor product (some opened)))
  else (none, host.record (.usbOpen vendor product none))

/-- Claims an interface; the result is a code. -/
def claim (on : UsbHandle) (interface : UInt8) (host : Host) : Int × Host :=
  let (code, rest) := answer host.script.claim 0
  let host := { host with script := { host.script with claim := rest } }
  (code, host.record (.claim on interface code))

/-- Gives an interface back; the result is a code. -/
def release (on : UsbHandle) (interface : UInt8) (host : Host) : Int × Host :=
  let (code, rest) := answer host.script.release 0
  let host := { host with script := { host.script with release := rest } }
  (code, host.record (.release on interface code))

/-- Sends one bulk transfer; the result is a code and how much was taken. -/
def bulkOut (on : UsbHandle) (endpoint : UInt8) (data : Bytes) (timeout : Nat) (host : Host) :
    (Int × Nat) × Host :=
  let (token, rest) := answer host.script.bulkOut ⟨0, none⟩
  let host := { host with script := { host.script with bulkOut := rest } }
  let count := match token.taken with
    | some k => min k data.length
    | none => if token.code = 0 then data.length else 0
  ((token.code, count), host.record (.bulkOut on endpoint data timeout token.code count))

/-- Receives one bulk transfer into a buffer of `room` bytes, which cuts it. -/
def bulkIn (on : UsbHandle) (endpoint : UInt8) (room timeout : Nat) (host : Host) :
    (Int × Bytes) × Host :=
  let (token, rest) := answer host.script.bulkIn ⟨-7, []⟩
  let host := { host with script := { host.script with bulkIn := rest } }
  let data := token.data.take room
  ((token.code, data), host.record (.bulkIn on endpoint room timeout token.code data.length))

/-- Closes a USB device. -/
def usbClose (on : UsbHandle) (host : Host) : Host := host.record (.usbClose on)

end Host
end BrickControl
