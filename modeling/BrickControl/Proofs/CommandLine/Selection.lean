import BrickControl.Proofs.CommandLine.Run
import BrickControl.Proofs.Device.Selection

/-!
# The choice of a backend

What the command line says about the target is what is used in the whole run, and where it says
nothing, the radio is tried before USB.
-/
namespace BrickControl.CommandLine

section

variable {target : Target} {start host : Host}

private theorem run_cabled (usb : target.usb = true) (command : Subcommand) (format : OutputFormat)
    (since : Host.SinceUsb true start host) :
    Host.SinceUsb true start (command.run target format host).2 := by
  have connects : target.connect = Device.openUsb := if_pos usb
  -- The device that was opened is one of the USB stack, and stays one while it is used.
  refine run_leads ?_ Device.keeps_cabled (fun _ has => Device.Cabled.close has) command
    format since
  rw [connects]
  exact Device.openUsb_cabled _ _ _

private theorem run_radioing (usb : target.usb = false) (address : target.address.isSome = true)
    (command : Subcommand) (format : OutputFormat) (spares : Host.Spares start host) :
    Host.Spares start (command.run target format host).2 := by
  obtain ⟨destination, named⟩ := Option.isSome_iff_exists.mp address
  have connects : target.connect = Device.openRadio destination := by
    simp only [Target.connect, usb, named, Bool.false_eq_true, if_false]
  refine run_leads ?_ Device.keeps_radioing (fun _ has => Device.Radioing.close has) command
    format spares
  rw [connects]
  exact Device.openRadio_radioing _ _

end

/-- The radio comes first, and USB is tried only where the radio failed: after all sockets of that
attempt were closed, and with the outcome that USB alone would have had. Where the command line asks
for USB no socket is used, and where it asks for an address and not for USB, USB is not. -/
theorem backend_selection (script : Script) (invocation : Invocation) (terminal : Bool) :
    let start := Host.ofScript script
    let radio := (Device.openRadio Radio.defaultDestination).run start
    let any := Device.openAny.run start
    let made := (invocation.run terminal start).2.calls
    (Target.mk none false).connect = Device.openAny ∧
    any = (if radio.1.isOk then radio else Device.openUsb.run radio.2) ∧
    (∀ before call after, any.2.calls = before ++ call :: after → call.onUsb = true →
      radio.1.isOk = false ∧
      ∀ kind on, .socket kind (.ok on) ∈ any.2.calls → ∃ result, .close on result ∈ before) ∧
    (∀ other : Script, other.usb = script.usb →
      let usb := Device.openUsb.run (Host.ofScript other)
      any.1.isOk = (radio.1.isOk || usb.1.isOk) ∧
      ∀ e e', radio.1 = .error e → usb.1 = .error e' → any.1 = .error e') ∧
    (invocation.target.usb = true → ∀ call ∈ made, call.onUsb = true) ∧
    (invocation.target.usb = false → invocation.target.address.isSome = true →
      ∀ call ∈ made, call.onUsb = false) := by
  intro start radio any made
  refine ⟨rfl, Device.firstAvailable_run _ _ start, ?_, ?_, ?_, ?_⟩
  · intro before call after parts onUsb
    exact Device.openAny_order script parts onUsb
  · intro other same
    exact Device.openAny_outcome script same
  · intro usb
    exact (run_cabled usb _ _ (Host.Since.refl _ start)).all
  · intro usb address
    exact (run_radioing usb address _ _ ⟨.refl _ start, rfl⟩).since.all

/-- The peer that carries the name refuses the stream, and the interface is in use elsewhere. -/
theorem backend_selection_busy :
    let script : Script :=
      { inquiry := [.ok ⟨[[6, 5, 4, 3, 2, 1]], 1⟩]
        read := [.ok [4, 7, 255, 0, 6, 5, 4, 3, 2, 1, 78, 88, 84, 0]]
        connect := [.error Errno.familyNotSupported]
        claim := [-6] }
    let any := Device.openAny.run (Host.ofScript script)
    let started (target : Target) : Invocation := ⟨target, none, .text, .warn, .brick .battery⟩
    any.1 = .error (.ofTransport (.claim Usb.brickVendor Usb.brickProduct .busy)) ∧
    (∃ before call after, any.2.calls = before ++ call :: after ∧ call.onUsb = true ∧
      ∀ kind on, .socket kind (.ok on) ∈ any.2.calls → ∃ result, .close on result ∈ before) ∧
    (∀ call ∈ ((started ⟨some "NXT", true⟩).run true (Host.ofScript script)).2.calls,
      call.onUsb = true) ∧
    (∀ call ∈ ((started ⟨some "NXT", false⟩).run true (Host.ofScript script)).2.calls,
      call.onUsb = false) := by
  intro script any started
  have failed : ((Device.openRadio Radio.defaultDestination).run (Host.ofScript script)).1.isOk =
      false := by decide +kernel
  have used : (Device.openAny.run (Host.ofScript script)).2.calls.any Call.onUsb = true := by
    decide +kernel
  obtain ⟨_, _, order, outcome, _, addressed⟩ :=
    backend_selection script (started ⟨some "NXT", false⟩) true
  obtain ⟨_, _, _, _, cabled, _⟩ := backend_selection script (started ⟨some "NXT", true⟩) true
  refine ⟨?_, ?_, cabled rfl, addressed rfl rfl⟩
  · -- The same USB answers in a script of their own decide how the whole ends.
    cases ended : ((Device.openRadio Radio.defaultDestination).run (Host.ofScript script)).1 with
    | ok device =>
      rw [ended] at failed
      cases failed
    | error e => exact (outcome { claim := [-6] } rfl).2 e _ ended rfl
  · -- There is a call of the USB stack, and the sockets were closed before it.
    obtain ⟨call, member, onUsb⟩ := List.any_eq_true.mp used
    obtain ⟨before, after, parts⟩ := List.append_of_mem member
    exact ⟨before, call, after, parts, onUsb, (order before call after parts onUsb).2⟩

end BrickControl.CommandLine
