import BrickControl.Device
import BrickControl.Proofs.Radio.Sockets
import BrickControl.Proofs.Usb.Handles

/-!
# The link of a device

A discipline for sockets and one for USB devices together tell what holds of a device, whichever of
the two it is: from opening it, while it is read and written, and after it is closed.
-/
namespace BrickControl.Device

/-- The link of the device is open, and its socket or its USB device is held. -/
def Has (held : Descriptor → Host → Prop) (held' : UsbHandle → UInt8 → Host → Prop) :
    Device → Host → Prop
  | .radio link, host => link.Has held host
  | .usb link, host => link.Has held' host

def Closed : Device → Prop
  | .radio link => link.descriptor = none
  | .usb link => link.handle = none

section

variable {free free' : Host → Prop} {held : Descriptor → Host → Prop}
  {held' : UsbHandle → UInt8 → Host → Prop}

/-- A radio device that was opened holds its socket, and nothing is held where opening it failed. -/
theorem openRadio_has (radio : Discipline free held) (destination : String)
    (config : Radio.Config) :
    (openRadio destination config).Leads free (·.Has held held') free :=
  ((radio.connect destination config).mapError _).bind fun _ => Act.leads_pure fun _ has => has

/-- A USB device that was opened holds its handle and its interface, and nothing is held where
opening it failed. -/
theorem openUsb_has (usb : Usb.Discipline free' held') (vendor product : UInt16)
    (config : Usb.Config) :
    (openUsb vendor product config).Leads free' (·.Has held held') free' :=
  ((usb.opened vendor product config).mapError _).bind fun _ => Act.leads_pure fun _ has => has

variable (radio : Discipline free held) (usb : Usb.Discipline free' held')

include radio usb

theorem keeps_has : Backend.Keeps fun state : Device × Host => state.1.Has held held' state.2 where
  read := by
    rintro room ⟨link | link, host⟩ has
    · exact radio.keeps.read room (link, host) has
    · exact usb.keeps.read room (link, host) has
  write := by
    rintro data ⟨link | link, host⟩ has
    · exact radio.keeps.write data (link, host) has
    · exact usb.keeps.write data (link, host) has

/-- A device that was closed holds nothing, and its host is free again in the terms of its own
discipline. -/
theorem Has.close {device : Device} {host : Host} (has : device.Has held held' host) :
    (Backend.close (device, host) : _ × Device × Host).2.1.Closed ∧
      (free (Backend.close (device, host) : _ × Device × Host).2.2 ∨
        free' (Backend.close (device, host) : _ × Device × Host).2.2) := by
  cases device with
  | radio link => exact (radio.close has).imp_right .inl
  | usb link => exact (usb.close has).imp_right .inr

end

/-- What does not depend on the socket or the USB device holds of the host alone. -/
theorem Has.host {holds holds' : Host → Prop} {device : Device} {host : Host}
    (has : device.Has (fun _ => holds) (fun _ _ => holds') host) : holds host ∨ holds' host := by
  cases device with
  | radio link =>
    obtain ⟨_, _, there⟩ := has
    exact .inl there
  | usb link =>
    obtain ⟨_, _, there⟩ := has
    exact .inr there

end BrickControl.Device
