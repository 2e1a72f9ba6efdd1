import BrickControl.Proofs.Backend.Alike
import BrickControl.Device

/-!
# How closing ends

Nothing that a program does with a host depends on how a close or a release ends. Two hosts that
differ in their answers to these alone are told apart by no call, so connecting ends in the same way
on both, and so does every read and write of the device.
-/
namespace BrickControl

namespace Host

/-- The host without its answers to closing, and without the calls made so far. -/
def unclosing (host : Host) : Host :=
  ⟨{ host.script with close := [], release := [] }, [], host.next⟩

/-- The two hosts answer everything but closing in the same way, and have handed out as many
handles. -/
def ButClosing (one other : Host) : Prop := one.unclosing = other.unclosing

/-- Scripts that differ in their answers to closing alone start hosts that do. -/
theorem butClosing_ofScript (script : Script) (close : List (Except Errno Unit))
    (release : List Int) :
    ButClosing (ofScript { script with close, release }) (ofScript script) := rfl

/-- What is done does without the answers to closing. -/
def Oblivious {α : Type} (f : Host → α × Host) : Prop :=
  ∀ host, Agree ButClosing (f host) (f host.unclosing)

/-- What can do without the answers to closing ends in the same way on hosts that differ in nothing
else. -/
theorem Oblivious.alike {α : Type} {f : Host → α × Host} (oblivious : Oblivious f)
    (one other : Host) (same : ButClosing one other) : Agree ButClosing (f one) (f other) := by
  obtain ⟨outcome, reached⟩ := oblivious one
  obtain ⟨outcome', reached'⟩ := oblivious other
  have same : one.unclosing = other.unclosing := same
  -- Both hosts are compared with the one host that they are without their answers to closing.
  rw [same] at outcome reached
  exact ⟨outcome.trans outcome'.symm, reached.trans reached'.symm⟩

theorem socket_alike (kind : SocketKind) :
    Act.Alike ButClosing (socket kind) (socket kind) := by
  refine Oblivious.alike fun host => ?_
  simp only [Act.run, socket, unclosing]
  cases answer host.script.socket (.ok ()) with
  | mk token rest => cases token <;> exact ⟨rfl, rfl⟩

private theorem bind_alike (on : Descriptor) (address : Bytes) :
    Act.Alike ButClosing (bind on address) (bind on address) :=
  Oblivious.alike fun _ => ⟨rfl, rfl⟩

private theorem connect_alike (on : Descriptor) (address : Bytes) :
    Act.Alike ButClosing (connect on address) (connect on address) :=
  Oblivious.alike fun _ => ⟨rfl, rfl⟩

theorem setOption_alike (on : Descriptor) (level name : Nat) (value : Bytes) :
    Act.Alike ButClosing (setOption on level name value) (setOption on level name value) :=
  Oblivious.alike fun _ => ⟨rfl, rfl⟩

private theorem adapters_alike (on : Descriptor) (room : Nat) :
    Act.Alike ButClosing (adapters on room) (adapters on room) :=
  Oblivious.alike fun _ => ⟨rfl, rfl⟩

private theorem inquiry_alike (on : Descriptor) (request : Bytes) :
    Act.Alike ButClosing (inquiry on request) (inquiry on request) :=
  Oblivious.alike fun _ => ⟨rfl, rfl⟩

private theorem read_alike (on : Descriptor) (room : Nat) :
    Act.Alike ButClosing (read on room) (read on room) :=
  Oblivious.alike fun _ => ⟨rfl, rfl⟩

private theorem write_alike (on : Descriptor) (data : Bytes) :
    Act.Alike ButClosing (write on data) (write on data) :=
  Oblivious.alike fun _ => ⟨rfl, rfl⟩

private theorem send_alike (on : Descriptor) (data : Bytes) :
    Act.Alike ButClosing (send on data) (send on data) :=
  Oblivious.alike fun _ => ⟨rfl, rfl⟩

private theorem receive_alike (on : Descriptor) (room : Nat) :
    Act.Alike ButClosing (receive on room) (receive on room) := by
  refine Oblivious.alike fun host => ?_
  simp only [Act.run, receive, unclosing]
  cases answer host.script.receive (.ok none) with
  | mk token rest => cases token <;> exact ⟨rfl, rfl⟩

private theorem usbOpen_alike (vendor product : UInt16) (one other : Host)
    (same : ButClosing one other) :
    Agree ButClosing (usbOpen vendor product one) (usbOpen vendor product other) := by
  refine Oblivious.alike (fun host => ?_) one other same
  obtain ⟨script, made, next⟩ := host
  by_cases present : (answer script.usbOpen true).1 = true
  · simp [Agree, usbOpen, unclosing, ButClosing, record, present]
  · simp [Agree, usbOpen, unclosing, ButClosing, record, present]

private theorem claim_alike (on : UsbHandle) (interface : UInt8) (one other : Host)
    (same : ButClosing one other) :
    Agree ButClosing (claim on interface one) (claim on interface other) :=
  Oblivious.alike (f := claim on interface) (fun _ => ⟨rfl, rfl⟩) one other same

private theorem bulkOut_alike (on : UsbHandle) (endpoint : UInt8) (data : Bytes) (timeout : Nat)
    (one other : Host) (same : ButClosing one other) :
    Agree ButClosing (bulkOut on endpoint data timeout one)
      (bulkOut on endpoint data timeout other) :=
  Oblivious.alike (f := bulkOut on endpoint data timeout) (fun _ => ⟨rfl, rfl⟩) one other same

private theorem bulkIn_alike (on : UsbHandle) (endpoint : UInt8) (room timeout : Nat)
    (one other : Host) (same : ButClosing one other) :
    Agree ButClosing (bulkIn on endpoint room timeout one)
      (bulkIn on endpoint room timeout other) :=
  Oblivious.alike (f := bulkIn on endpoint room timeout) (fun _ => ⟨rfl, rfl⟩) one other same

/-- Dropping a socket uses up an answer to closing, and those do not count. -/
theorem dropSocket_alike (on : Descriptor) (one other : Host) (same : ButClosing one other) :
    ButClosing (dropSocket on one) (dropSocket on other) := same

private theorem persist_alike {α : Type} {act : Act Host Errno α}
    (alike : Act.Alike ButClosing act act)
    (patience : Nat) : Act.Alike ButClosing (persist act patience) (persist act patience) := by
  induction patience with
  | zero => exact alike
  | succ patience ih =>
    intro one other same
    obtain ⟨outcome, one', other', ended, ended', same'⟩ := (alike one other same).split
    simp only [Act.run] at ended ended'
    simp only [Act.run, persist, ended, ended']
    cases outcome with
    | ok a => exact ⟨rfl, same'⟩
    | error e =>
      -- The answers were the same, so they were interrupted together.
      by_cases interrupted : e.kind = .interrupted
      · simp only [if_pos interrupted]
        exact ih one' other' same'
      · simp only [if_neg interrupted]
        exact ⟨rfl, same'⟩

end Host

open Host

namespace Radio

private theorem Adapter.firstUp_alike : Act.Alike ButClosing Adapter.firstUp Adapter.firstUp := by
  refine ((socket_alike .adapter).mapError _).bind fun socket => ?_
  refine .afterwards ?_ (dropSocket_alike socket)
  refine ((adapters_alike socket maxAdapters).mapError _).bind fun list => ?_
  dsimp only
  split
  · exact Act.alike_known (.ok _)
  · exact Act.alike_known (.error _)

/-- An adapter is found and its socket set up with the same outcome, whatever closing the sockets
says. -/
private theorem Adapter.open_alike (config : Config) :
    Act.Alike ButClosing (Adapter.open config) (Adapter.open config) := by
  refine .mapError _ (firstUp_alike.bind fun device => ?_)
  refine ((socket_alike .adapter).mapError _).bind fun socket => ?_
  refine .onFailure ?_ (dropSocket_alike socket)
  refine .bind (.mapError _ ?_) fun _ => Act.alike_known (.ok _)
  refine (bind_alike socket _).bind fun _ => ?_
  exact (setOption_alike socket _ _ _).bind fun _ => setOption_alike socket _ _ _

private theorem Adapter.scan_alike (adapter : Adapter) :
    Act.Alike ButClosing adapter.scan adapter.scan :=
  ((inquiry_alike _ _).mapError _).bind fun _ => Act.alike_known (.ok _)

private theorem Adapter.awaitName_alike (on : Descriptor) (peer : Address) (patience : Nat) :
    Act.Alike ButClosing (awaitName on peer patience) (awaitName on peer patience) := by
  induction patience with
  | zero => exact Act.alike_known (.error _)
  | succ patience ih =>
    refine (read_alike on packetRoom).attempt.bind fun got => ?_
    -- What the packet says is looked up in the same bytes, and a failed read ends the wait or
    -- starts it again by its cause.
    cases got with
    | ok packet =>
      dsimp only
      split
      · exact Act.alike_known _
      · exact ih
    | error e =>
      dsimp only
      split
      · exact ih
      · exact Act.alike_known (.error _)
      · exact Act.alike_known (.error _)

private theorem Adapter.remoteName_alike (adapter : Adapter) (peer : Address) :
    Act.Alike ButClosing (adapter.remoteName peer) (adapter.remoteName peer) := by
  refine ((write_alike _ _).mapError _).bind fun sent => .ite (Act.alike_known (.error _)) ?_
  intro one other same
  -- Both hosts have as many packets in store, so both are asked as often.
  have patience : one.script.read.length = other.script.read.length :=
    congrArg (fun host => host.script.read.length) same
  simp only [Act.run, patience]
  exact awaitName_alike _ _ _ one other same

private theorem PeerScanner.firstNamed_alike {scanner : PeerScanner Host}
    (asks : ∀ peer, Act.Alike ButClosing (scanner.remoteName peer) (scanner.remoteName peer))
    (name : String) (peers : List Address) :
    Act.Alike ButClosing (scanner.firstNamed name peers) (scanner.firstNamed name peers) := by
  induction peers with
  | nil => exact Act.alike_known (.error _)
  | cons peer others ih =>
    refine (asks peer).attempt.bind fun answered => ?_
    -- A peer that cannot be asked is passed over on both hosts.
    cases answered with
    | error e => exact ih
    | ok found => exact .ite (Act.alike_known (.ok _)) ih

private theorem Link.locate_alike (destination : String) (config : Config) :
    Act.Alike ButClosing (locate destination config) (locate destination config) := by
  refine (Act.alike_known _).bind fun parsed => ?_
  -- An address needs no search.
  cases parsed with
  | address a => exact Act.alike_known (.ok a)
  | name n =>
    refine (Adapter.open_alike config).bind fun adapter => ?_
    refine .afterwards ?_ (dropSocket_alike adapter.socket)
    exact (adapter.scan_alike.mapError _).bind fun peers =>
      PeerScanner.firstNamed_alike adapter.remoteName_alike n peers

/-- How a search closed its sockets does not show in the link. -/
private theorem Link.connect_alike (destination : String) (config : Config) :
    Act.Alike ButClosing (connect destination config) (connect destination config) := by
  refine (locate_alike destination config).bind fun address => ?_
  refine ((socket_alike .stream).mapError _).bind fun socket => ?_
  refine .onFailure ?_ (dropSocket_alike socket)
  refine (setOption_alike socket _ _ _).attempt.bind fun _ => ?_
  exact ((Host.connect_alike socket _).mapError _).bind fun _ => Act.alike_known (.ok _)

end Radio

private theorem Usb.Link.open_alike (vendor product : UInt16) (config : Config) :
    Act.Alike ButClosing (Usb.Link.open vendor product config)
      (Usb.Link.open vendor product config) := by
  intro one other same
  obtain ⟨opened, one, other, left, right, same⟩ :=
    -- A claim that is refused closes the handle; that answer is one that does not count.
    (usbOpen_alike vendor product one other same).split
  simp only [Act.run, Usb.Link.open, left, right]
  cases opened with
  | none => exact ⟨rfl, same⟩
  | some handle =>
    obtain ⟨code, one, other, left, right, same⟩ :=
      (claim_alike handle config.interface one other same).split
    simp only [left, right]
    split
    · exact ⟨rfl, same⟩
    · exact ⟨rfl, same⟩

namespace Device

/-- The radio device is opened with the same outcome, however closing ends. -/
theorem openRadio_alike (destination : String) (config : Radio.Config) :
    Act.Alike ButClosing (openRadio destination config) (openRadio destination config) :=
  ((Radio.Link.connect_alike destination config).mapError _).bind fun _ => Act.alike_known (.ok _)

theorem openUsb_alike (vendor product : UInt16) (config : Usb.Config) :
    Act.Alike ButClosing (openUsb vendor product config) (openUsb vendor product config) :=
  ((Usb.Link.open_alike vendor product config).mapError _).bind fun _ => Act.alike_known (.ok _)

/-- The fallback is tried on both hosts or on neither. -/
theorem firstAvailable_alike {primary fallback : Act Host CommandError Device}
    (first : Act.Alike ButClosing primary primary)
    (second : Act.Alike ButClosing fallback fallback) :
    Act.Alike ButClosing (firstAvailable primary fallback) (firstAvailable primary fallback) := by
  intro one other same
  obtain ⟨outcome, one', other', ended, ended', same'⟩ := (first one other same).split
  simp only [Act.run] at ended ended'
  simp only [Act.run, firstAvailable, ended, ended']
  cases outcome with
  | ok device => exact ⟨rfl, same'⟩
  | error e => exact second one' other' same'

/-- The same device on hosts that differ only in how closing ends. -/
def Beside (one other : Device × Host) : Prop := one.1 = other.1 ∧ ButClosing one.2 other.2

/-- An open device reads and writes in the same way on both hosts, until it is closed. -/
theorem beside_alike : Backend.Alike Beside where
  read := by
    rintro room ⟨link | link, one⟩ ⟨_, other⟩ ⟨rfl, same⟩
    · simp only [Backend.read]
      cases link.descriptor with
      | none => exact ⟨rfl, rfl, same⟩
      | some on =>
        -- As many packets are in store on both hosts, so a read is taken up as often.
        have patience : one.script.receive.length = other.script.receive.length :=
          congrArg (fun host => host.script.receive.length) same
        obtain ⟨got, one, other, left, right, same⟩ :=
          (persist_alike (receive_alike on room) one.script.receive.length one other same).split
        rw [patience] at right
        simp only [Act.run] at left right
        simp only [left, right]
        cases got with
        | ok data => exact ⟨rfl, rfl, same⟩
        | error e => exact ⟨rfl, rfl, same⟩
    · simp only [Backend.read]
      cases link.handle with
      | none => exact ⟨rfl, rfl, same⟩
      | some handle =>
        dsimp only
        split
        · obtain ⟨got, one, other, left, right, same⟩ :=
            (bulkIn_alike handle link.config.endpointIn room
              (Usb.Link.transferTimeout link.config.timeout) one other same).split
          simp only [left, right]
          exact ⟨rfl, rfl, same⟩
        · exact ⟨rfl, rfl, same⟩
  write := by
    rintro data ⟨link | link, one⟩ ⟨_, other⟩ ⟨rfl, same⟩
    · simp only [Backend.write]
      cases link.descriptor with
      | none => exact ⟨rfl, rfl, same⟩
      | some on =>
        have patience : one.script.send.length = other.script.send.length :=
          congrArg (fun host => host.script.send.length) same
        obtain ⟨took, one, other, left, right, same⟩ :=
          (persist_alike (send_alike on data) one.script.send.length one other same).split
        rw [patience] at right
        simp only [Act.run] at left right
        simp only [left, right]
        cases took with
        | ok n => exact ⟨rfl, rfl, same⟩
        | error e => exact ⟨rfl, rfl, same⟩
    · simp only [Backend.write]
      cases link.handle with
      | none => exact ⟨rfl, rfl, same⟩
      | some handle =>
        dsimp only
        split
        · exact ⟨rfl, rfl, same⟩
        · obtain ⟨took, one, other, left, right, same⟩ :=
            (bulkOut_alike handle link.config.endpointOut data
              (Usb.Link.transferTimeout link.config.timeout) one other same).split
          simp only [left, right]
          exact ⟨rfl, rfl, same⟩
  name := by
    rintro ⟨link | link, one⟩ ⟨_, other⟩ ⟨rfl, _⟩
    · rfl
    · rfl
  patience _ _ _ := rfl

end Device
end BrickControl
