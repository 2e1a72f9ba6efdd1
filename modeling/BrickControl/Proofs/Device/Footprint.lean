import BrickControl.Proofs.Connection.Lifecycle
import BrickControl.Proofs.Device.Dialling
import BrickControl.Proofs.Device.Resources

/-!
# The footprint of a connection

Which calls a connection leaves on its host, and where their arguments come from: the calls with
which it is opened, and from then on calls with which its device `Carries` bytes or is given back.
What a write reports is what its calls moved.
-/
namespace BrickControl

open Host (Added Since)
open Act

namespace Device

/-! ### Moving bytes -/

/-- The calls with which the device moves bytes to the brick. -/
def Sends : Device → Call → Prop
  | .radio _ => fun
    | .send _ _ _ => True
    | _ => False
  | .usb link => fun
    | .bulkOut _ endpoint _ timeout _ _ =>
      endpoint = link.config.endpointOut ∧ timeout = Usb.Link.transferTimeout link.config.timeout
    | _ => False

/-- The calls with which the device gets bytes from the brick. -/
def Receives : Device → Call → Prop
  | .radio _ => fun
    | .receive _ _ _ => True
    | _ => False
  | .usb link => fun
    | .bulkIn _ endpoint _ timeout _ _ =>
      endpoint = link.config.endpointIn ∧ timeout = Usb.Link.transferTimeout link.config.timeout
    | _ => False

/-- The calls with which the device is given back. -/
def Returns : Device → Call → Prop
  | .radio _ => fun
    | .close _ _ => True
    | _ => False
  | .usb link => fun
    | .release _ interface _ => interface = link.config.interface
    | .usbClose _ => True
    | _ => False

/-- The calls of a device that is connected. -/
def Carries (device : Device) (call : Call) : Prop :=
  device.Sends call ∨ device.Receives call ∨ device.Returns call

end Device

/-- The bytes that a call moved to the brick. -/
def Call.sent : Call → Bytes
  | .send _ data (.ok n) => data.take n
  | .bulkOut _ _ data _ _ n => data.take n
  | _ => []

namespace Host

private theorem taken_le (limit : Option Nat) (data : Bytes) : taken limit data ≤ data.length := by
  cases limit with
  | none => exact Nat.le_refl _
  | some k => exact Nat.min_le_right k _

private theorem send_added (on : Descriptor) (data : Bytes) (host : Host) :
    ∃ result after, send on data host = (result, after) ∧
      Added host [.send on data result] 0 after ∧ ∀ n, result = .ok n → n ≤ data.length := by
  have bound (token : Except Errno (Option Nat)) :
      ∀ n, token.map (taken · data) = .ok n → n ≤ data.length := by
    cases token with
    | error e => exact nofun
    | ok limit =>
      rintro _ ⟨⟩
      exact taken_le limit data
  exact ⟨_, _, rfl, added_of rfl rfl, bound _⟩

/-- A piece that is sent again as long as a signal cuts the call short is sent once. -/
theorem persist_send (on : Descriptor) (data : Bytes) (patience : Nat) (host : Host) :
    ∃ outcome after calls, persist (send on data) patience host = (outcome, after) ∧
      Added host calls 0 after ∧ (∀ call ∈ calls, ∃ result, call = .send on data result) ∧
      ∀ n, outcome = .ok n → calls.flatMap Call.sent = data.take n ∧ n ≤ data.length := by
  induction patience generalizing host with
  | zero =>
    obtain ⟨result, after, once, added, bound⟩ := send_added on data host
    refine ⟨result, after, _, once, added, by simp, ?_⟩
    rintro n rfl
    exact ⟨by simp [Call.sent], bound n rfl⟩
  | succ patience ih =>
    obtain ⟨result, between, once, added, bound⟩ := send_added on data host
    simp only [persist, once]
    cases result with
    | ok k =>
      refine ⟨_, _, _, rfl, added, by simp, ?_⟩
      rintro _ ⟨⟩
      exact ⟨by simp [Call.sent], bound k rfl⟩
    | error e =>
      by_cases interrupted : e.kind = .interrupted
      · -- The call that was cut short moved nothing.
        obtain ⟨outcome, after, calls, again, more, sorts, moved⟩ := ih between
        simp only [if_pos interrupted]
        refine ⟨outcome, after, _, again, added.trans more, ?_, ?_⟩
        · exact List.forall_mem_cons.mpr ⟨⟨_, rfl⟩, sorts⟩
        · exact moved
      · simp only [if_neg interrupted]
        refine ⟨_, _, _, rfl, added, by simp, ?_⟩
        rintro n ⟨⟩

private theorem bulkOut_added (on : UsbHandle) (endpoint : UInt8) (data : Bytes) (timeout : Nat)
    (host : Host) : ∃ code count after,
      bulkOut on endpoint data timeout host = ((code, count), after) ∧ count ≤ data.length ∧
      Added host [.bulkOut on endpoint data timeout code count] 0 after := by
  have bound : (bulkOut on endpoint data timeout host).1.2 ≤ data.length := by
    simp only [bulkOut]
    split
    · exact Nat.min_le_right _ _
    · split
      · exact Nat.le_refl _
      · exact Nat.zero_le _
  exact ⟨_, _, _, rfl, bound, added_of rfl rfl⟩

private theorem bulkIn_added (on : UsbHandle) (endpoint : UInt8) (room timeout : Nat)
    (host : Host) :
    ∃ code count, Added host [.bulkIn on endpoint room timeout code count] 0
      (bulkIn on endpoint room timeout host).2 := ⟨_, _, added_of rfl rfl⟩

end Host

namespace Device

private theorem transferResult_ok {code : Int} {count n : Nat}
    (moved : Usb.Link.transferResult code count = .ok n) : n = count := by
  simp only [Usb.Link.transferResult] at moved
  split at moved
  · cases moved
    rfl
  · split at moved
    · cases moved
      rfl
    · cases moved

/-- A write leaves the device as it is. What it reports is what its calls moved, and over USB there
is one call for it. -/
theorem write_sends (data : Bytes) (device : Device) (host : Host) :
    ∃ outcome after calls, Backend.write data (device, host) = (outcome, device, after) ∧
      Added host calls 0 after ∧ (∀ call ∈ calls, device.Sends call) ∧
      ∀ n, outcome = .ok n → calls.flatMap Call.sent = data.take n ∧ n ≤ data.length ∧
        (device.framing = .message → calls.length = 1) := by
  have idle : Added host [] 0 host := ⟨(List.append_nil _).symm, rfl⟩
  cases device with
  | radio link =>
    cases opened : link.descriptor with
    | none =>
      simp only [Backend.write, opened]
      exact ⟨_, _, _, rfl, idle, nofun, nofun⟩
    | some on =>
      simp only [Backend.write, opened]
      obtain ⟨outcome, after, calls, ended, added, sorts, moved⟩ :=
        Host.persist_send on data host.script.send.length host
      have sends : ∀ call ∈ calls, (Device.radio link).Sends call := by
        intro call member
        obtain ⟨result, rfl⟩ := sorts call member
        exact trivial
      rw [ended]
      cases outcome with
      | error e => exact ⟨_, _, _, rfl, added, sends, nofun⟩
      | ok k =>
        refine ⟨_, _, _, rfl, added, sends, ?_⟩
        rintro _ ⟨⟩
        obtain ⟨bytes, bound⟩ := moved k rfl
        exact ⟨bytes, bound, nofun⟩
  | usb link =>
    cases opened : link.handle with
    | none =>
      simp only [Backend.write, opened]
      exact ⟨_, _, _, rfl, idle, nofun, nofun⟩
    | some on =>
      simp only [Backend.write, opened]
      split
      · -- An endpoint of the wrong direction is not used.
        exact ⟨_, _, _, rfl, idle, nofun, nofun⟩
      · obtain ⟨code, count, after, ended, bound, added⟩ := Host.bulkOut_added on
          link.config.endpointOut data (Usb.Link.transferTimeout link.config.timeout) host
        rw [ended]
        refine ⟨_, _, _, rfl, added, List.forall_mem_singleton.mpr ⟨rfl, rfl⟩, ?_⟩
        intro n moved
        obtain rfl := transferResult_ok moved
        exact ⟨by simp [Call.sent], bound, fun _ => rfl⟩

private theorem read_receives (room : Nat) (device : Device) (host : Host) :
    ∃ delivery after, Backend.read room (device, host) = (delivery, device, after) ∧
      Since device.Receives host after := by
  cases device with
  | radio link =>
    cases opened : link.descriptor with
    | none =>
      simp only [Backend.read, opened]
      exact ⟨_, _, rfl, .refl _ _⟩
    | some on =>
      -- A receive that is interrupted is one call of the device as well.
      have once : (Host.receive on room).Makes (Device.radio link).Receives := by
        refine makes_call fun host => ?_
        simp only [Act.run, Host.receive]
        split
        · exact ⟨.receive on room _, 0, Host.added_of rfl rfl, trivial⟩
        · exact ⟨.receive on room _, 0, Host.added_of rfl rfl, trivial⟩
      have since := once.persist host.script.receive.length host
      revert since
      simp only [Act.run, Backend.read, opened]
      rcases Host.persist (Host.receive on room) host.script.receive.length host with ⟨_ | _, after⟩
      · exact fun since => ⟨_, _, rfl, since⟩
      · exact fun since => ⟨_, _, rfl, since⟩
  | usb link =>
    cases opened : link.handle with
    | none =>
      simp only [Backend.read, opened]
      exact ⟨_, _, rfl, .refl _ _⟩
    | some on =>
      simp only [Backend.read, opened]
      split
      · obtain ⟨code, count, added⟩ := Host.bulkIn_added on link.config.endpointIn room
          (Usb.Link.transferTimeout link.config.timeout) host
        exact ⟨_, _, rfl, (Since.refl _ host).add_one added ⟨rfl, rfl⟩⟩
      · exact ⟨_, _, rfl, .refl _ _⟩

/-- What is left of a device after it was closed has the same settings. -/
theorem close_returns (device : Device) (host : Host) :
    ∃ outcome shut after, (Backend.close (device, host) : _ × Device × Host) =
        (outcome, shut, after) ∧
      shut.Carries = device.Carries ∧ Since device.Returns host after := by
  cases device with
  | radio link =>
    cases opened : link.descriptor with
    | none =>
      simp only [Backend.close, opened]
      exact ⟨_, _, _, rfl, rfl, .refl _ _⟩
    | some on =>
      obtain ⟨⟨result, added⟩, _⟩ := Host.dropSocket_added on host
      have since : Since (Device.radio link).Returns host (Host.dropSocket on host) :=
        (Since.refl _ host).add_one added trivial
      revert since
      simp only [Host.dropSocket, Backend.close, opened]
      rcases Host.close on host with ⟨_ | _, after⟩
      · exact fun since => ⟨_, _, _, rfl, rfl, since⟩
      · exact fun since => ⟨_, _, _, rfl, rfl, since⟩
  | usb link =>
    cases opened : link.handle with
    | none =>
      simp only [Backend.close, opened]
      exact ⟨_, _, _, rfl, rfl, .refl _ _⟩
    | some on =>
      obtain ⟨outcome, after, back, ended, gives, added⟩ := Usb.Link.close_gives opened host
      have whole : (Backend.close (Device.usb link, host) : _ × Device × Host) =
          (outcome, .usb { link with handle := none }, after) := by
        simp only [Backend.close] at ended ⊢
        rw [ended]
      refine ⟨_, _, _, whole, rfl, (Since.refl _ host).add added ?_⟩
      rw [List.forall_mem_append, List.forall_mem_singleton]
      refine ⟨fun call member => ?_, trivial⟩
      obtain ⟨code, rfl⟩ := gives.release.2 call member
      exact rfl

/-- Giving a device up makes no other calls than closing it. -/
private theorem drop_returns (device : Device) (host : Host) :
    Since device.Returns host (device.drop host) := by
  cases device with
  | radio link =>
    simp only [drop, Radio.Link.drop]
    split
    · exact .refl _ host
    · next on _ =>
      obtain ⟨⟨result, added⟩, _⟩ := Host.dropSocket_added on host
      exact (Since.refl _ host).add_one added trivial
  | usb link =>
    simp only [drop, Usb.Link.drop]
    split
    · exact .refl _ host
    · next on _ =>
      obtain ⟨code, between, released, added⟩ := Host.release_added on link.config.interface host
      simp only [Usb.Link.giveUp, released]
      -- The interface is released, and then the device is closed.
      have given : Since (Device.usb link).Returns host between :=
        (Since.refl _ host).add_one added rfl
      exact given.add_one (Host.usbClose_added on between) trivial

/-- The device has the settings that it had, and since `start` it only carried bytes or was given
back. -/
structure Serves (device : Device) (start : Host) (state : Device × Host) : Prop where
  same : state.1.Carries = device.Carries
  since : Since device.Carries start state.2

/-- Calls of the device are more of its service, as long as its settings stay. -/
theorem Serves.more {device : Device} {start host after : Host} {current next : Device}
    {sort : Call → Prop} (serves : device.Serves start (current, host))
    (since : Since sort host after) (sorts : ∀ call, sort call → current.Carries call)
    (same : next.Carries = current.Carries) : device.Serves start (next, after) := by
  obtain ⟨kept, earlier⟩ := serves
  refine ⟨same.trans kept, earlier.trans ?_⟩
  rw [← kept]
  exact since.weaken sorts

private theorem serves_keeps (device : Device) (start : Host) : Backend.Keeps
    (device.Serves start) where
  read := by
    rintro room ⟨current, host⟩ serves
    obtain ⟨delivery, after, ended, since⟩ := read_receives room current host
    rw [ended]
    exact serves.more since (fun _ receives => .inr (.inl receives)) rfl
  write := by
    rintro data ⟨current, host⟩ serves
    obtain ⟨outcome, after, calls, ended, added, sends, _⟩ := write_sends data current host
    rw [ended]
    exact serves.more ((Since.refl _ host).add added sends) (fun _ sends => .inl sends) rfl

private theorem serves_close {device : Device} {start : Host} {state : Device × Host}
    (serves : device.Serves start state) :
    device.Serves start (Backend.close state : _ × Device × Host).2 := by
  obtain ⟨current, host⟩ := state
  obtain ⟨outcome, shut, after, ended, same, since⟩ := close_returns current host
  rw [ended]
  exact serves.more since (fun _ returns => .inr (.inr returns)) same

end Device

/-! ### The life of a connection -/

namespace Connection

variable {σ : Type} [Backend σ] {I : σ → Prop}

private theorem apply_invariant (keeps : Backend.Keeps I)
    (closes : ∀ s, I s → I (Backend.close s : _ × σ).2) (use : Use) {connection : Connection σ}
    (holds : I connection.backend) : I (use.apply connection).2.backend := by
  obtain ⟨framing, isOpen, s⟩ := connection
  by_cases last : use = .close
  · subst last
    cases isOpen with
    | false => exact holds
    | true => exact closes s holds
  · obtain ⟨seen, after, ended, holds⟩ := Use.apply_keeps keeps last framing isOpen holds
    rw [ended]
    exact holds

/-- What reads, writes and closes keep is kept over the whole life of a connection. -/
theorem live_invariant (keeps : Backend.Keeps I)
    (closes : ∀ s, I s → I (Backend.close s : _ × σ).2) (uses : List Use)
    {connection : Connection σ} (holds : I connection.backend) :
    I (live uses connection).2.drop.backend := by
  -- The drop at the end is a close, if the connection is still open.
  induction uses generalizing connection with
  | nil => exact apply_invariant keeps closes .close holds
  | cons use rest ih => exact ih (apply_invariant keeps closes use holds)

end Connection

namespace Opening

/-- The calls with which a connection is opened. -/
def Dials : Opening → Call → Prop
  | .radio _ config => Radio.Dials config
  | .usb vendor product config => Usb.Finds vendor product config
  | .any => fun call =>
    Radio.Dials {} call ∨ Usb.Finds Usb.brickVendor Usb.brickProduct {} call

/-- The devices that are opened in this way, with their settings. -/
def Reaches : Opening → Device → Prop
  | .radio _ _, .radio _ => True
  | .usb _ _ config, .usb link => link.config = config
  | .any, .radio _ => True
  | .any, .usb link => link.config = {}
  | _, _ => False

/-- Whether or not it succeeds, opening a connection moves no bytes. -/
theorem connect_dials (opening : Opening) : opening.connect.Makes opening.Dials := by
  have radio (destination : String) (config : Radio.Config) :
      (Device.openRadio destination config).Makes (Radio.Dials config) :=
    ((Radio.Link.connect_dials destination).mapError _).bind fun _ => makes_known (.ok _)
  have usb (vendor product : UInt16) (config : Usb.Config) :
      (Device.openUsb vendor product config).Makes (Usb.Finds vendor product config) :=
    ((Usb.Link.open_finds vendor product config).mapError _).bind fun _ => makes_known (.ok _)
  cases opening with
  | radio destination config => exact radio destination config
  | usb vendor product config => exact usb vendor product config
  | any =>
    intro host
    -- The second way starts on the host that the first one left behind.
    have first := radio Radio.defaultDestination {} host
    revert first
    simp only [connect, Act.run, Device.openAny, Device.firstAvailable]
    rcases Device.openRadio Radio.defaultDestination {} host with ⟨_ | device, between⟩
    · exact fun first => (first.weaken fun _ => .inl).trans
        ((usb _ _ _ between).weaken fun _ => .inr)
    · exact fun first => first.weaken fun _ => .inl

private theorem connect_reaches (opening : Opening) :
    opening.connect.Leads (fun _ => True) (fun device _ => opening.Reaches device)
      fun _ => True := by
  have radio (destination : String) (config : Radio.Config) {P : Device → Prop}
      (reached : ∀ link, P (.radio link)) :
      (Device.openRadio destination config).Leads (fun _ => True) (fun device _ => P device)
        fun _ => True :=
    (leads_trivial _).bind fun link => leads_pure fun _ _ => reached link
  have usb (vendor product : UInt16) (config : Usb.Config) {P : Device → Prop}
      (reached : ∀ link : Usb.Link, link.config = config → P (.usb link)) :
      (Device.openUsb vendor product config).Leads (fun _ => True) (fun device _ => P device)
        fun _ => True := by
    have opens : (Usb.Link.open vendor product config).Leads (fun _ => True)
        (fun link _ => link.config = config) fun _ => True := by
      intro host _
      have opened := Usb.Link.open_opened vendor product config host
      cases ended : (Usb.Link.open vendor product config).run host with
      | mk outcome after =>
        rw [ended] at opened
        cases opened with
        | missing => exact trivial
        | refused => exact trivial
        | claimed => rfl
    exact (opens.mapError _).bind fun link => leads_pure fun _ same => reached link same
  cases opening with
  | radio destination config => exact radio destination config fun _ => trivial
  | usb vendor product config => exact usb vendor product config fun _ same => same
  | any =>
    exact Device.firstAvailable_leads (radio _ _ fun _ => trivial) (usb _ _ _ fun _ same => same)

/-- Every call in the life of a connection is one with which it is opened, or one of its device. -/
theorem life_footprint (opening : Opening) (uses : List Use) (script : Script) :
    ∀ call ∈ (opening.life uses (Host.ofScript script)).calls,
      opening.Dials call ∨ ∃ device, opening.Reaches device ∧ device.Carries call := by
  have dials := opening.connect_dials (Host.ofScript script)
  have reaches := opening.connect_reaches (Host.ofScript script) trivial
  simp only [Act.run] at dials reaches
  suffices since : Since (fun call => opening.Dials call ∨
      ∃ device, opening.Reaches device ∧ device.Carries call) (Host.ofScript script)
      (opening.life uses (Host.ofScript script)) from since.all
  simp only [life]
  cases ended : opening.connect (Host.ofScript script) with
  | mk outcome reached =>
    rw [ended] at dials reaches
    cases outcome with
    | error e => exact dials.weaken fun _ => .inl
    | ok device =>
      have fresh : device.Serves reached (Connection.overDevice device reached).backend :=
        ⟨rfl, .refl _ _⟩
      -- The connection closes its device when it is dropped, and what is left of it is dropped too.
      have serves := Connection.live_invariant (Device.serves_keeps device reached)
        (fun _ => Device.serves_close) uses fresh
      have dropped := serves.more (Device.drop_returns _ _)
        (fun _ returns => .inr (.inr returns)) rfl
      refine (dials.weaken fun _ => .inl).trans (dropped.since.weaken fun call carries => ?_)
      exact .inr ⟨device, reaches, carries⟩

end Opening
end BrickControl
