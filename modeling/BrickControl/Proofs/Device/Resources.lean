import BrickControl.Proofs.Connection.Lifecycle
import BrickControl.Proofs.Device.Links

/-!
# The resources of a device

However a connection is opened, used and dropped, and wherever the host fails in the course of it,
every socket and every USB device that it got from the host is given back, in order and once.
-/
namespace BrickControl

private theorem Host.socket_ledger (kind : SocketKind) :
    (Host.socket kind).Leads Host.Tidy (fun on => Host.Holds (.socket on)) Host.Tidy :=
  Host.socket_leads kind (fun _ _ _ tidy _ added => tidy.idle added rfl)
    fun _ _ tidy _ added =>
      tidy.opened added (List.forall_mem_singleton.mpr rfl) rfl ⟨kind, [], rfl, by simp⟩

/-- Sockets are used only while they are held, and giving one up closes it. -/
theorem Host.ledger_discipline : Discipline Host.Tidy fun on => Host.Holds (.socket on) where
  opened := Host.socket_ledger .adapter
  streamed := Host.socket_ledger .stream
  used on before after holds worked := by
    obtain ⟨call, added, about, works⟩ := worked.worked
    exact holds.works added about works
  closed on host holds := by
    obtain ⟨⟨result, added⟩, _⟩ := Host.dropSocket_added on host
    refine holds.given added (List.forall_mem_singleton.mpr rfl) ?_
    rintro _ ⟨kind, uses, rfl, work⟩
    exact .socket work

/-- An interface is held from its claim on, and giving it up releases it and closes its device. -/
theorem Usb.ledger_discipline :
    Usb.Discipline Host.Tidy fun on number => Host.Holds (.interface on number) where
  missing vendor product before after tidy added := tidy.idle added rfl
  refused vendor product interface code before after tidy refused added :=
    tidy.passed added (by simp [Call.resource?]) rfl (.refused refused)
  claimed vendor product interface before after tidy added :=
    tidy.opened added (by simp [Call.resource?, Grip.resource]) rfl
      ⟨vendor, product, [], rfl, by simp⟩
  used on interface before call after holds about works added := holds.works added about works
  -- The device was opened and claimed, and it was used; giving it back completes its history.
  closed on interface back before after holds gives added := by
    refine holds.given added gives.about ?_
    rintro _ ⟨vendor, product, uses, rfl, work⟩
    rw [← List.append_assoc]
    exact .released work gives

namespace Device

/-- The device is open, and its resource is held. -/
def Holds : Device → Host → Prop :=
  Has (fun on => Host.Holds (.socket on)) fun on number => Host.Holds (.interface on number)

/-- Gives up a device that may still be open. -/
def drop : Device → Host → Host
  | .radio link, host => link.drop host
  | .usb link, host => link.drop host

private theorem Closed.drop {device : Device} (closed : device.Closed) (host : Host) :
    device.drop host = host := by
  cases device with
  | radio link =>
    have gone : link.descriptor = none := closed
    simp only [Device.drop, Radio.Link.drop, gone]
  | usb link =>
    have gone : link.handle = none := closed
    simp only [Device.drop, Usb.Link.drop, gone]

/-- A device keeps hold of its resource while it is read and written. -/
theorem keeps_holds : Backend.Keeps fun state : Device × Host => state.1.Holds state.2 :=
  keeps_has Host.ledger_discipline Usb.ledger_discipline

/-- Closing a device ends what it holds, whatever the close reports. -/
theorem Holds.close {device : Device} {host : Host} (holds : device.Holds host) :
    (Backend.close (device, host) : _ × Device × Host).2.1.Closed ∧
      (Backend.close (device, host) : _ × Device × Host).2.2.Tidy :=
  (Has.close Host.ledger_discipline Usb.ledger_discipline holds).imp_right fun tidy =>
    tidy.elim id id

/-- A radio device that was opened holds a socket; where opening it failed nothing is left. -/
theorem openRadio_holds (destination : String) (config : Radio.Config) :
    (openRadio destination config).Leads Host.Tidy Holds Host.Tidy :=
  openRadio_has Host.ledger_discipline destination config

theorem openUsb_holds (vendor product : UInt16) (config : Usb.Config) :
    (openUsb vendor product config).Leads Host.Tidy Holds Host.Tidy :=
  openUsb_has Usb.ledger_discipline vendor product config

/-- The fallback starts where the first attempt failed, so what holds after failures holds before
it. -/
theorem firstAvailable_leads {before : Host → Prop} {after : Device → Host → Prop}
    {primary fallback : Act Host CommandError Device} (first : primary.Leads before after before)
    (second : fallback.Leads before after before) :
    (firstAvailable primary fallback).Leads before after before := by
  intro host holds
  simp only [Act.run, firstAvailable]
  cases ended : primary host with
  | mk outcome reached =>
    cases outcome with
    | ok device => exact first.ok holds ended
    | error e => exact second reached (first.error holds ended)

end Device

/-- The ways to open a connection to a device. -/
inductive Opening where
  | radio (destination : String) (config : Radio.Config)
  | usb (vendor product : UInt16) (config : Usb.Config)
  | any

namespace Opening

def connect : Opening → Act Host CommandError Device
  | .radio destination config => Device.openRadio destination config
  | .usb vendor product config => Device.openUsb vendor product config
  | .any => Device.openAny

/-- Opens a connection, uses it, drops it and gives up its device. -/
def life (opening : Opening) (uses : List Use) (host : Host) : Host :=
  match opening.connect host with
  | (.error _, host) => host
  | (.ok device, host) =>
    match (Connection.live uses (Connection.overDevice device host)).2.drop.backend with
    | (device, host) => device.drop host

/-- However a connection is opened, its device holds a resource, and a failure leaves nothing
behind. -/
theorem connect_holds (opening : Opening) :
    opening.connect.Leads Host.Tidy Device.Holds Host.Tidy := by
  cases opening with
  | radio destination config => exact Device.openRadio_holds destination config
  | usb vendor product config => exact Device.openUsb_holds vendor product config
  | any =>
    exact Device.firstAvailable_leads (Device.openRadio_holds _ _) (Device.openUsb_holds _ _ _)

end Opening

namespace Connection

/-- An open connection holds the resource of its device; a closed one holds nothing. -/
structure Owns (connection : Connection (Device × Host)) : Prop where
  opened : connection.isOpen = true → connection.backend.1.Holds connection.backend.2
  closed : connection.isOpen = false →
    connection.backend.1.Closed ∧ connection.backend.2.Tidy

/-- A close gives the resource back, and a closed connection has none. -/
theorem owns_close {connection : Connection (Device × Host)} (owns : connection.Owns) :
    (close connection).2.isOpen = false ∧ (close connection).2.Owns := by
  obtain ⟨framing, isOpen, device, host⟩ := connection
  cases isOpen with
  | false => exact ⟨rfl, owns⟩
  | true =>
    have holds : device.Holds host := owns.opened rfl
    exact ⟨rfl, nofun, fun _ => holds.close⟩

private theorem owns_apply (use : Use) {connection : Connection (Device × Host)}
    (owns : connection.Owns) : (use.apply connection).2.Owns := by
  obtain ⟨framing, isOpen, device, host⟩ := connection
  cases isOpen with
  | false =>
    -- Whatever the arguments are, a closed connection does not reach its device.
    rw [(use.apply_closed framing (device, host)).1]
    exact owns
  | true =>
    by_cases last : use = .close
    · subst last
      exact (owns_close owns).2
    · have holds : device.Holds host := owns.opened rfl
      obtain ⟨seen, ⟨device, host⟩, ended, holds⟩ :=
        Use.apply_keeps Device.keeps_holds last framing true (s := (device, host)) holds
      rw [ended]
      exact ⟨fun _ => holds, nofun⟩

/-- A connection owns its resource or is closed all along its life. -/
private theorem owns_live (uses : List Use) {connection : Connection (Device × Host)}
    (owns : connection.Owns) : (live uses connection).2.Owns := by
  induction uses generalizing connection with
  | nil => exact owns
  | cons use rest ih => exact ih (owns_apply use owns)

end Connection

namespace Opening

/-- At the end of its life a connection has given everything back. -/
private theorem life_tidy (opening : Opening) (uses : List Use) {host : Host} (tidy : host.Tidy) :
    (opening.life uses host).Tidy := by
  simp only [life]
  cases ended : opening.connect host with
  | mk outcome reached =>
    cases outcome with
    | error e => exact opening.connect_holds.error tidy ended
    | ok device =>
      have holds : device.Holds reached := opening.connect_holds.ok tidy ended
      have owns : (Connection.overDevice device reached).Owns := ⟨fun _ => holds, nofun⟩
      -- The drop of the connection closes it, and then the device has nothing left to give up.
      obtain ⟨shut, owns⟩ := Connection.owns_close (Connection.owns_live uses owns)
      obtain ⟨closed, tidy⟩ := owns.closed shut
      dsimp only
      rw [Connection.drop, closed.drop]
      exact tidy

/-- Whatever the host answers, a connection gives back all that it got from it: what is left when
opening fails is balanced, and so is the whole life of a connection that was opened. -/
theorem life_balanced (opening : Opening) (uses : List Use) (script : Script) :
    Balanced (opening.life uses (Host.ofScript script)).calls ∧
      ∀ e failed, opening.connect (Host.ofScript script) = (.error e, failed) →
        Balanced failed.calls := by
  have start := Host.tidy_ofScript script
  refine ⟨(opening.life_tidy uses start).balanced, fun e failed ended => ?_⟩
  exact (opening.connect_holds.error start ended).balanced

/-- The peer that carries the name refuses the stream, and there is no USB device either: what was
opened are three sockets, and all of them were closed. -/
theorem life_balanced_refused :
    let script : Script :=
      { inquiry := [.ok ⟨[[6, 5, 4, 3, 2, 1]], 1⟩]
        read := [.ok [4, 7, 255, 0, 6, 5, 4, 3, 2, 1, 78, 88, 84, 0]]
        connect := [.error Errno.familyNotSupported]
        usbOpen := [false] }
    let ended := Opening.any.connect (Host.ofScript script)
    (∃ e, ended.1 = .error e) ∧ Balanced ended.2.calls ∧
      ended.2.calls.countP (fun call => call.opens && call.resource?.isSome) = 3 ∧
      ended.2.calls.countP Call.closes = 3 := by
  intro script
  have failed : (Opening.any.connect (Host.ofScript script)).1.isOk = false := by decide +kernel
  have opened : (Opening.any.connect (Host.ofScript script)).2.calls.countP
      (fun call => call.opens && call.resource?.isSome) = 3 := by decide +kernel
  have closed : (Opening.any.connect (Host.ofScript script)).2.calls.countP Call.closes = 3 := by
    decide +kernel
  obtain ⟨_, balanced⟩ := life_balanced .any [] script
  -- That opening fails can be looked up; how it fails is not asked for.
  cases whole : Opening.any.connect (Host.ofScript script) with
  | mk outcome reached =>
    rw [whole] at failed opened closed
    cases outcome with
    | ok device => cases failed
    | error e => exact ⟨⟨e, rfl⟩, balanced e reached whole, opened, closed⟩

end Opening
end BrickControl
