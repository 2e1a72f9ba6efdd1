import BrickControl.Backend
import BrickControl.Duration
import BrickControl.Host

/-!
# The USB link

Each bulk transfer carries one message. The interface is claimed for as long as the link is open;
a device is never given back with its interface still claimed, unless the release itself fails.
-/
namespace BrickControl.Usb

/-- Which interface and endpoints are used, and how long a transfer may take. -/
structure Config where
  interface : UInt8 := 0
  endpointOut : UInt8 := 0x01
  endpointIn : UInt8 := 0x82
  /-- No time at all means no limit. -/
  timeout : Duration := Duration.zero

/-- The vendor number of the brick's maker. -/
def brickVendor : UInt16 := 0x0694

/-- The product number of the brick. -/
def brickProduct : UInt16 := 0x0002

/-- A link to a device; without a handle it is closed. -/
structure Link where
  handle : Option UsbHandle
  vendor : UInt16
  product : UInt16
  config : Config

namespace Link

/-- The bit of an endpoint address that marks incoming transfers. -/
def isIncoming (endpoint : UInt8) : Bool := endpoint &&& 0x80 ≠ 0

/-- The timeout of a transfer in whole milliseconds, as the USB stack counts them. -/
def transferTimeout (d : Duration) : Nat := d.millis % 4294967296

/-- What a transfer reports: a transfer that was cut short counts as far as it came. -/
def transferResult (code : Int) (count : Nat) : Except TransportError Nat :=
  if code = 0 then .ok count
  else if (code = -7 ∨ code = -10) ∧ 0 < count then .ok count
  else .error (.usb (Fault.ofCode code))

/-- Opens the first device with this identity and claims its interface. -/
def «open» (vendor product : UInt16) (config : Config) : Act Host TransportError Link := fun host =>
  match Host.usbOpen vendor product host with
  | (none, host) => (.error (.deviceNotFound vendor product), host)
  | (some handle, host) =>
    match Host.claim handle config.interface host with
    | (code, host) =>
      if code = 0 then (.ok ⟨some handle, vendor, product, config⟩, host)
      else (.error (.claim vendor product (Fault.ofCode code)), Host.usbClose handle host)

/-- Gives back a device whose interface is claimed. -/
def giveUp (handle : UsbHandle) (interface : UInt8) (host : Host) : Host :=
  Host.usbClose handle (Host.release handle interface host).2

/-- The link as a backend, on the host that it lives on. -/
instance : Backend (Link × Host) where
  name _ := "usb-bulk"
  read room := fun (link, host) =>
    match link.handle with
    | none => (⟨[], .error .closed⟩, (link, host))
    | some handle =>
      if isIncoming link.config.endpointIn then
        match Host.bulkIn handle link.config.endpointIn room
            (transferTimeout link.config.timeout) host with
        | ((code, data), host) => (⟨data, transferResult code data.length⟩, (link, host))
      else (⟨[], .error (.usb .invalidParameter)⟩, (link, host))
  write data := fun (link, host) =>
    match link.handle with
    | none => (.error .closed, (link, host))
    | some handle =>
      if isIncoming link.config.endpointOut then (.error (.usb .invalidParameter), (link, host))
      else
        match Host.bulkOut handle link.config.endpointOut data
            (transferTimeout link.config.timeout) host with
        | ((code, count), host) => (transferResult code count, (link, host))
  close := fun (link, host) =>
    match link.handle with
    | none => (.ok (), (link, host))
    | some handle =>
      let closed := { link with handle := none }
      match Host.release handle link.config.interface host with
      | (code, host) =>
        -- A refused release is tried once more when the device is given back.
        if code = 0 then (.ok (), (closed, Host.usbClose handle host))
        else (.error (.usb (Fault.ofCode code)),
          (closed, giveUp handle link.config.interface host))
  patience _ := 0

/-- Gives up a link that may still be open. -/
def drop (link : Link) (host : Host) : Host :=
  match link.handle with
  | none => host
  | some handle => giveUp handle link.config.interface host

end Link
end BrickControl.Usb
