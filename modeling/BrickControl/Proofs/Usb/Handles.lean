import BrickControl.Proofs.Backend.Alike
import BrickControl.Proofs.Host.Holding
import BrickControl.Usb.Link

/-!
# The device of a USB link

What opening, using and closing a USB link adds to the calls on the host; a transfer that the link
refuses by itself adds nothing. A `Discipline` tells how these calls lead from a property without a
device to a property with one and back.
-/
namespace BrickControl

namespace Host

variable {host : Host}

private theorem usbOpen_added (vendor product : UInt16) (host : Host) :
    (∃ after, usbOpen vendor product host = (none, after) ∧
      Added host [.usbOpen vendor product none] 0 after) ∨
    (∃ after, usbOpen vendor product host = (some ⟨host.next⟩, after) ∧
      Added host [.usbOpen vendor product (some ⟨host.next⟩)] 1 after) := by
  simp only [usbOpen]
  cases (answer host.script.usbOpen true).1 with
  | false => exact .inl ⟨_, rfl, added_of rfl rfl⟩
  | true => exact .inr ⟨_, rfl, by simp [calls, record], rfl⟩

private theorem claim_added (on : UsbHandle) (interface : UInt8) (host : Host) :
    ∃ code after, claim on interface host = (code, after) ∧
      Added host [.claim on interface code] 0 after :=
  ⟨_, _, rfl, added_of rfl rfl⟩

theorem release_added (on : UsbHandle) (interface : UInt8) (host : Host) :
    ∃ code after, release on interface host = (code, after) ∧
      Added host [.release on interface code] 0 after :=
  ⟨_, _, rfl, added_of rfl rfl⟩

theorem usbClose_added (on : UsbHandle) (host : Host) :
    Added host [.usbClose on] 0 (usbClose on host) :=
  added_of rfl rfl

/-- At most one more call, and it works on this device. -/
def Transferred (on : UsbHandle) (before after : Host) : Prop :=
  after = before ∨ ∃ call, call.resource? = some (.device on) ∧ call.works ∧
    Added before [call] 0 after

theorem transferred_bulkOut (on : UsbHandle) (endpoint : UInt8) (data : Bytes) (timeout : Nat) :
    Transferred on host (bulkOut on endpoint data timeout host).2 :=
  .inr ⟨.bulkOut on endpoint data timeout _ _, rfl, rfl, added_of rfl rfl⟩

theorem transferred_bulkIn (on : UsbHandle) (endpoint : UInt8) (room timeout : Nat) :
    Transferred on host (bulkIn on endpoint room timeout host).2 :=
  .inr ⟨.bulkIn on endpoint room timeout _ _, rfl, rfl, added_of rfl rfl⟩

end Host

namespace Usb.Link

open Host (Added Transferred)

/-- The three ways in which opening a device can end. -/
inductive Opened (vendor product : UInt16) (config : Config) (before : Host) :
    Except TransportError Link × Host → Prop
  | missing {after : Host} (added : Added before [.usbOpen vendor product none] 0 after) :
      Opened vendor product config before (.error (.deviceNotFound vendor product), after)
  | refused {after : Host} {code : Int} (refused : code ≠ 0)
      (added : Added before [.usbOpen vendor product (some ⟨before.next⟩),
        .claim ⟨before.next⟩ config.interface code, .usbClose ⟨before.next⟩] 1 after) :
      Opened vendor product config before
        (.error (.claim vendor product (Fault.ofCode code)), after)
  | claimed {after : Host} (added : Added before [.usbOpen vendor product (some ⟨before.next⟩),
        .claim ⟨before.next⟩ config.interface 0] 1 after) :
      Opened vendor product config before
        (.ok ⟨some ⟨before.next⟩, vendor, product, config⟩, after)

/-- Opening a link ends in one of the three ways. -/
theorem open_opened (vendor product : UInt16) (config : Config) (host : Host) :
    Opened vendor product config host ((Link.open vendor product config).run host) := by
  rcases Host.usbOpen_added vendor product host with
    ⟨after, missing, added⟩ | ⟨found, present, added⟩
  · -- Nothing was opened, so nothing has to be closed.
    simp only [Act.run, Link.open, missing]
    exact .missing added
  · obtain ⟨code, after, claimed, added'⟩ := Host.claim_added ⟨host.next⟩ config.interface found
    simp only [Act.run, Link.open, present, claimed]
    split
    · next accepted =>
      subst accepted
      exact .claimed (added.trans added')
    · next refused =>
      exact .refused refused ((added.trans added').trans (Host.usbClose_added ⟨host.next⟩ after))

variable {link : Link} {on : UsbHandle}

private theorem read_transferred (opened : link.handle = some on) (room : Nat) (host : Host) :
    ∃ delivery after, Backend.read room (link, host) = (delivery, link, after) ∧
      Transferred on host after := by
  simp only [Backend.read, opened]
  -- An endpoint of the other direction is refused without a transfer.
  split
  · exact ⟨_, _, rfl, Host.transferred_bulkIn on _ room _⟩
  · exact ⟨_, _, rfl, .inl rfl⟩

private theorem write_transferred (opened : link.handle = some on) (data : Bytes) (host : Host) :
    ∃ outcome after, Backend.write data (link, host) = (outcome, link, after) ∧
      Transferred on host after := by
  simp only [Backend.write, opened]
  split
  · exact ⟨_, _, rfl, .inl rfl⟩
  · exact ⟨_, _, rfl, Host.transferred_bulkOut on _ data _⟩

/-- Closing a link gives the interface back and then closes its device; a release that is refused is
made once more. -/
theorem close_gives (opened : link.handle = some on) (host : Host) :
    ∃ outcome after back,
      Backend.close (link, host) = (outcome, { link with handle := none }, after) ∧
      GivesBack on link.config.interface back ∧ Added host (back ++ [.usbClose on]) 0 after := by
  obtain ⟨code, once, released, added⟩ := Host.release_added on link.config.interface host
  simp only [Backend.close, opened, released]
  split
  · next accepted =>
    subst accepted
    exact ⟨_, _, _, rfl, .once, added.trans (Host.usbClose_added on once)⟩
  · next refused =>
    -- Dropping the device tries once more before it closes it.
    obtain ⟨again, twice, released', added'⟩ :=
      Host.release_added on link.config.interface once
    simp only [giveUp, released']
    exact ⟨_, _, _, rfl, .again refused,
      (added.trans added').trans (Host.usbClose_added on twice)⟩

/-- The link is open, and its device is held with its interface. -/
def Has (held : UsbHandle → UInt8 → Host → Prop) (link : Link) (host : Host) : Prop :=
  ∃ on, link.handle = some on ∧ held on link.config.interface host

end Usb.Link

namespace Usb

open Host (Added Transferred)

/-- How opening, using and closing a device lead from `free` to `held` and back. -/
structure Discipline (free : Host → Prop) (held : UsbHandle → UInt8 → Host → Prop) : Prop where
  missing : ∀ vendor product before after, free before →
    Added before [.usbOpen vendor product none] 0 after → free after
  refused : ∀ vendor product interface code before after, free before → code ≠ 0 →
    Added before [.usbOpen vendor product (some ⟨before.next⟩),
      .claim ⟨before.next⟩ interface code, .usbClose ⟨before.next⟩] 1 after → free after
  claimed : ∀ vendor product interface before after, free before →
    Added before [.usbOpen vendor product (some ⟨before.next⟩),
      .claim ⟨before.next⟩ interface 0] 1 after → held ⟨before.next⟩ interface after
  used : ∀ on interface before call after, held on interface before →
    call.resource? = some (.device on) → call.works → Added before [call] 0 after →
    held on interface after
  closed : ∀ on interface back before after, held on interface before →
    GivesBack on interface back → Added before (back ++ [.usbClose on]) 0 after → free after

namespace Discipline

theorem never : Discipline (fun _ => False) fun _ _ _ => False where
  missing _ _ _ _ impossible _ := impossible
  refused _ _ _ _ _ _ impossible _ _ := impossible
  claimed _ _ _ _ _ impossible _ := impossible
  used _ _ _ _ _ impossible _ _ _ := impossible
  closed _ _ _ _ _ impossible _ _ := impossible

variable {free : Host → Prop} {held : UsbHandle → UInt8 → Host → Prop}
  (discipline : Discipline free held)

include discipline

/-- A link that was opened holds its device, and where opening it failed nothing is held. -/
theorem opened (vendor product : UInt16) (config : Config) :
    (Link.open vendor product config).Leads free (·.Has held) free := by
  intro host holds
  have opened := Link.open_opened vendor product config host
  cases ended : (Link.open vendor product config).run host with
  | mk outcome after =>
    rw [ended] at opened
    cases opened with
    | missing added => exact discipline.missing _ _ _ _ holds added
    | refused refused added => exact discipline.refused _ _ _ _ _ _ holds refused added
    | claimed added => exact ⟨_, rfl, discipline.claimed _ _ _ _ _ holds added⟩

private theorem transferred {on : UsbHandle} {interface : UInt8} {before after : Host}
    (holds : held on interface before) (moved : Transferred on before after) :
    held on interface after := by
  rcases moved with rfl | ⟨call, about, works, added⟩
  · exact holds
  · exact discipline.used _ _ _ _ _ holds about works added

/-- Reading and writing keep hold of the device. -/
theorem keeps : Backend.Keeps fun state : Link × Host => state.1.Has held state.2 where
  read := by
    rintro room ⟨link, host⟩ has
    obtain ⟨on, opened, holds⟩ : link.Has held host := has
    obtain ⟨delivery, after, ended, moved⟩ := Link.read_transferred opened room host
    rw [ended]
    exact ⟨on, opened, discipline.transferred holds moved⟩
  write := by
    rintro data ⟨link, host⟩ has
    obtain ⟨on, opened, holds⟩ : link.Has held host := has
    obtain ⟨outcome, after, ended, moved⟩ := Link.write_transferred opened data host
    rw [ended]
    exact ⟨on, opened, discipline.transferred holds moved⟩

/-- Closing gives the device back, also where the release is refused. -/
theorem close {link : Link} {host : Host} (has : link.Has held host) :
    (Backend.close (link, host) : _ × Link × Host).2.1.handle = none ∧
      free (Backend.close (link, host) : _ × Link × Host).2.2 := by
  obtain ⟨on, opened, holds⟩ := has
  obtain ⟨outcome, after, back, ended, gives, added⟩ := Link.close_gives opened host
  rw [ended]
  exact ⟨rfl, discipline.closed _ _ _ _ _ holds gives added⟩

end Discipline
end Usb
end BrickControl
