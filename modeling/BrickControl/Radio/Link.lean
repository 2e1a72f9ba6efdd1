import BrickControl.Backend
import BrickControl.Radio.Adapter

/-!
# The radio link

A byte stream to one peer. It is connected by address, or by a name that is resolved first; the
adapter that resolves a name is given back before the stream is opened.
-/
namespace BrickControl.Radio

/-- A link to a peer; without a descriptor it is closed. -/
structure Link where
  descriptor : Option Descriptor
  address : Address

namespace Link

/-- The socket address of a peer: family, stored address, channel. -/
def peerAddress (address : Address) (channel : UInt8) : Bytes :=
  Adapter.family ++ address.stored ++ [channel]

/-- Connects to a known address. The option that allows an address to be used again is set, but
nothing depends on it. -/
def connectAddress (address : Address) (config : Config) : Act Host TransportError Link := do
  let failed (e : Errno) := TransportError.connect address.text (.system e)
  let socket ← (Host.socket .stream).mapError failed
  Act.onFailure (Host.dropSocket socket) do
    let _ ← (Host.setOption socket 1 2 [1, 0, 0, 0]).attempt
    (Host.connect socket (peerAddress address config.channel)).mapError failed
    pure ⟨some socket, address⟩

/-- Finds the address of a destination. -/
def locate (destination : String) (config : Config) : Act Host TransportError Address := do
  match ← Act.ofExcept (Destination.parse destination) with
  | .address a => pure a
  | .name n =>
    let adapter ← Adapter.open config
    Act.afterwards adapter.drop (adapter.scanner.resolve n)

/-- Connects to an address or to the first peer of a name. -/
def connect (destination : String) (config : Config) : Act Host TransportError Link := do
  let address ← locate destination config
  connectAddress address config

/-- The link as a backend, on the host that it lives on. -/
instance : Backend (Link × Host) where
  name _ := "bluetooth-rfcomm"
  read room := fun (link, host) =>
    match link.descriptor with
    | none => (⟨[], .error .closed⟩, (link, host))
    | some on =>
      match Host.persist (Host.receive on room) host.script.receive.length host with
      | (.ok data, host) => (⟨data, .ok data.length⟩, (link, host))
      | (.error e, host) => (⟨[], .error (.io (.system e))⟩, (link, host))
  write data := fun (link, host) =>
    match link.descriptor with
    | none => (.error .closed, (link, host))
    | some on =>
      match Host.persist (Host.send on data) host.script.send.length host with
      | (.ok n, host) => (.ok n, (link, host))
      | (.error e, host) => (.error (.io (.system e)), (link, host))
  close := fun (link, host) =>
    match link.descriptor with
    | none => (.ok (), (link, host))
    | some on =>
      match Host.close on host with
      | (.ok (), host) => (.ok (), ({ link with descriptor := none }, host))
      | (.error e, host) => (.error (.io (.system e)), ({ link with descriptor := none }, host))
  patience _ := 0

/-- Gives up a link that may still be open. -/
def drop (link : Link) (host : Host) : Host :=
  match link.descriptor with
  | none => host
  | some on => Host.dropSocket on host

end Link
end BrickControl.Radio
