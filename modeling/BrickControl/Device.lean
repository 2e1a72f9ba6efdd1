import BrickControl.Connection
import BrickControl.Radio.Link
import BrickControl.Usb.Link

/-!
# Devices

The two built-in ways to reach a brick. The radio link is a byte stream and is framed; a USB
transfer is a message. With neither asked for, the radio is tried first and USB second.
-/
namespace BrickControl

/-- A link to a brick. -/
inductive Device where
  | radio (link : Radio.Link)
  | usb (link : Usb.Link)

namespace Device

/-- The link as a backend, on the host that it lives on. -/
instance : Backend (Device × Host) where
  name := fun
    | (.radio link, host) => Backend.name (link, host)
    | (.usb link, host) => Backend.name (link, host)
  read room := fun
    | (.radio link, host) =>
      match Backend.read room (link, host) with
      | (delivery, link, host) => (delivery, .radio link, host)
    | (.usb link, host) =>
      match Backend.read room (link, host) with
      | (delivery, link, host) => (delivery, .usb link, host)
  write data := fun
    | (.radio link, host) =>
      match Backend.write data (link, host) with
      | (outcome, link, host) => (outcome, .radio link, host)
    | (.usb link, host) =>
      match Backend.write data (link, host) with
      | (outcome, link, host) => (outcome, .usb link, host)
  close := fun
    | (.radio link, host) =>
      match Backend.close (link, host) with
      | (outcome, link, host) => (outcome, .radio link, host)
    | (.usb link, host) =>
      match Backend.close (link, host) with
      | (outcome, link, host) => (outcome, .usb link, host)
  patience _ := 0

/-- How messages travel on a device. -/
def framing : Device → Framing
  | .radio _ => .stream
  | .usb _ => .message

/-- Connects over the radio. -/
def openRadio (destination : String) (config : Radio.Config := {}) :
    Act Host CommandError Device := do
  let link ← (Radio.Link.connect destination config).mapError .ofTransport
  pure (.radio link)

/-- Connects over USB. -/
def openUsb (vendor : UInt16 := Usb.brickVendor) (product : UInt16 := Usb.brickProduct)
    (config : Usb.Config := {}) : Act Host CommandError Device := do
  let link ← (Usb.Link.open vendor product config).mapError .ofTransport
  pure (.usb link)

/-- The fallback runs only where the first choice failed, and then its outcome counts. -/
def firstAvailable (primary fallback : Act Host CommandError Device) :
    Act Host CommandError Device := fun host =>
  match primary host with
  | (.ok device, host) => (.ok device, host)
  | (.error _, host) => fallback host

/-- Connects over the radio to a brick with its factory name, or else over USB. -/
def openAny : Act Host CommandError Device :=
  firstAvailable (openRadio Radio.defaultDestination) openUsb

end Device

/-- A connection over a built-in device. -/
def Connection.overDevice (device : Device) (host : Host) : Connection (Device × Host) :=
  ⟨device.framing, true, (device, host)⟩

end BrickControl
