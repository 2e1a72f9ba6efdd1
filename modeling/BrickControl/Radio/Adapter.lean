import BrickControl.Host
import BrickControl.Radio.Discovery
import BrickControl.Text.Utf8

/-!
# The local radio adapter

The first adapter that is switched on searches for peers and asks them for their names. Its events
arrive as packets; while a name is awaited, every packet that does not decide the matter is passed
over.
-/
namespace BrickControl.Radio

/-- An open adapter. -/
structure Adapter where
  socket : Descriptor
  device : UInt16
  inquiryLength : UInt8
  maxResponses : UInt8

namespace Adapter

/-- The most adapters that are looked at. -/
def maxAdapters : Nat := 16

/-- The address family of radio sockets, as the system stores it. -/
def family : Bytes := Bytes.littleEndian 2 31

/-- The command that asks for a name. -/
def nameCommand : Nat := 0x0419

/-- The event that tells how a command started. -/
def commandStatus : UInt8 := 0x0F

/-- The event that brings a name. -/
def nameComplete : UInt8 := 0x07

/-- The longest packet of an adapter, and so the size of the buffer for one. -/
def packetRoom : Nat := 258

/-- The longest name in an event. -/
def nameRoom : Nat := 248

/-- The bits of a set of events, low bit first. -/
def eventMask (events : List UInt8) : Nat :=
  events.foldl (fun mask event => mask ||| 1 <<< event.toNat) 0

/-- The socket filter that lets only these events through. -/
def eventFilter (events : List UInt8) : Bytes :=
  Bytes.littleEndian 4 (1 <<< 4) ++ Bytes.littleEndian 8 (eventMask events)
    ++ Bytes.littleEndian 2 0

/-- The time value of a receive timeout: seconds and microseconds. -/
def timeValue (d : Duration) : Bytes :=
  Bytes.littleEndian 8 d.seconds ++ Bytes.littleEndian 8 d.microsOfSecond

/-- The number of the first adapter that is switched on. -/
def firstUp : Act Host IoError UInt16 := do
  let socket ← (Host.socket .adapter).mapError .system
  Act.afterwards (Host.dropSocket socket) do
    let list ← (Host.adapters socket maxAdapters).mapError .system
    let listed := list.entries.take (min (list.count % 65536) maxAdapters)
    -- The lowest bit of the state says that the adapter is switched on.
    match listed.find? (fun entry => entry.2 % 2 = 1) with
    | some entry => pure (UInt16.ofNat entry.1)
    | none => Act.fail (.described .notFound "no bluetooth adapter is up")

/-- Opens the first adapter and makes it ready for name requests. -/
def «open» (config : Config) : Act Host TransportError Adapter :=
  Act.mapError .discovery do
    let device ← firstUp
    let socket ← (Host.socket .adapter).mapError .system
    Act.onFailure (Host.dropSocket socket) do
      Act.mapError .system do
        Host.bind socket (family ++ Bytes.ofUInt16 device ++ [0, 0])
        Host.setOption socket 0 2 (eventFilter [commandStatus, nameComplete])
        Host.setOption socket 1 20 (timeValue config.nameTimeout)
      pure ⟨socket, device, config.inquiryLength, config.maxResponses⟩

/-- The address in a record of the system; bytes that are missing are zero. -/
def recordAddress (record : Bytes) : Address where
  octets := ((record ++ List.replicate 6 0).take 6).reverse
  length_eq := by simp

/-- What a search asks for: all peers, with nothing remembered from earlier searches. -/
def inquiryRequest (adapter : Adapter) : Bytes :=
  Bytes.ofUInt16 adapter.device ++ [0x01, 0x00] ++ [0x33, 0x8B, 0x9E]
    ++ [adapter.inquiryLength, adapter.maxResponses]

/-- Searches for peers. As many records count as are reported, at most `maxResponses`; a record
that was not filled is zero. -/
def scan (adapter : Adapter) : Act Host IoError (List Address) := do
  let found ← (Host.inquiry adapter.socket adapter.inquiryRequest).mapError .system
  let room := adapter.maxResponses.toNat
  -- The answer has room for this many records, whatever count is reported.
  let records := found.peers.take room ++ List.replicate room []
  pure ((records.take (min (found.count % 256) room)).map recordAddress)

/-- The packet that asks a peer for its name. -/
def nameRequest (peer : Address) : Bytes :=
  [0x01] ++ Bytes.littleEndian 2 nameCommand ++ [10] ++ peer.stored ++ [0x02, 0, 0, 0]

/-- The code and the parameters of an event packet. The length field can only shorten what the
packet holds. -/
def event? : Bytes → Option (UInt8 × Bytes)
  | 0x04 :: code :: length :: rest => some (code, rest.take length.toNat)
  | _ => none

/-- The text of a name field, which ends at the first zero byte. -/
def nameText (field : Bytes) : String :=
  Text.Utf8.decodeLossy ((field.take nameRoom).takeWhile (· ≠ 0))

/-- How a packet decides a name request for `peer`, if it does. -/
def verdict? (peer : Address) (packet : Bytes) : Option (Except IoError String) :=
  match event? packet with
  | none => none
  | some (code, parameters) =>
    if code = commandStatus then
      match parameters with
      | status :: _ :: low :: high :: _ =>
        if Bytes.value [low, high] = nameCommand ∧ status ≠ 0 then
          some (.error (.described .other
            ("remote name request rejected (status " ++ Text.Hex.marked status ++ ")")))
        else none
      | _ => none
    else if code = nameComplete then
      match parameters with
      | status :: a :: b :: c :: d :: e :: f :: field =>
        if [a, b, c, d, e, f] ≠ peer.stored then none
        else if status ≠ 0 then
          some (.error (.described .other
            ("remote name request failed (status " ++ Text.Hex.marked status ++ ")")))
        else some (.ok (nameText field))
      | _ => none
    else none

/-- Reads packets until one decides the request. -/
def awaitName (on : Descriptor) (peer : Address) : Nat → Act Host IoError String
  | 0 => Act.fail (.described .timedOut "remote name request timed out")
  | patience + 1 => do
    match ← (Host.read on packetRoom).attempt with
    | .ok packet =>
      match verdict? peer packet with
      | some outcome => Act.ofExcept outcome
      | none => awaitName on peer patience
    | .error e =>
      match e.kind with
      | .interrupted => awaitName on peer patience
      | .wouldBlock => Act.fail (.described .timedOut "remote name request timed out")
      | _ => Act.fail (.system e)

/-- The name of a peer. A host with `n` packets in store refuses the next read, so `n + 1` reads
are enough. -/
def remoteName (adapter : Adapter) (peer : Address) : Act Host IoError String := do
  let request := nameRequest peer
  let sent ← (Host.write adapter.socket request).mapError .system
  if sent ≠ request.length then
    Act.fail (.described .writeZero "short write of hci command")
  else fun host => awaitName adapter.socket peer (host.script.read.length + 1) host

/-- The adapter as a finder of peers. -/
def scanner (adapter : Adapter) : PeerScanner Host where
  scan := adapter.scan
  remoteName := adapter.remoteName

/-- Gives the adapter back. -/
def drop (adapter : Adapter) (host : Host) : Host := Host.dropSocket adapter.socket host

end Adapter
end BrickControl.Radio
