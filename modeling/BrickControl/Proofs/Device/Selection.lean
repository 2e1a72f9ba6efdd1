import BrickControl.Proofs.Device.Resources

/-!
# The choice of a device

The radio attempt makes no USB call and leaves the answers of the USB stack alone, so the USB
attempt that follows a failed one ends as it would have ended on its own.
-/
namespace BrickControl

/-- Every call either works with sockets or with the USB stack. -/
def Call.onUsb : Call → Bool
  | .usbOpen _ _ _ | .claim _ _ _ | .release _ _ _ | .bulkOut _ _ _ _ _ _
  | .bulkIn _ _ _ _ _ _ | .usbClose _ => true
  | _ => false

private theorem Call.onUsb_socket {call : Call} {on : Descriptor}
    (about : call.resource? = some (.socket on)) : call.onUsb = false := by
  cases call <;> simp_all [Call.resource?, Call.onUsb]

private theorem Call.onUsb_device {call : Call} {on : UsbHandle}
    (about : call.resource? = some (.device on)) : call.onUsb = true := by
  cases call with
  | socket kind result => cases result <;> cases about
  | _ => simp_all [Call.resource?, Call.onUsb]

namespace Host

/-- All calls since `start` were on the USB stack, or none of them. -/
abbrev SinceUsb (usb : Bool) (start host : Host) : Prop :=
  Since (fun call => call.onUsb = usb) start host

/-- Only sockets were used since `start`, and the USB stack still has its answers. -/
structure Spares (start host : Host) : Prop where
  since : SinceUsb false start host
  store : host.script.usb = start.script.usb

private theorem socket_spares (start : Host) (kind : SocketKind) :
    (socket kind).Leads (Spares start) (fun _ => Spares start) (Spares start) :=
  socket_leads kind
    (fun _ _ _ spares store added => ⟨spares.since.add_one added rfl, store.trans spares.store⟩)
    fun _ _ spares store added => ⟨spares.since.add_one added rfl, store.trans spares.store⟩

/-- Nothing that is done with sockets uses up an answer of the USB stack. -/
theorem spares_discipline (start : Host) : Discipline (Spares start) fun _ => Spares start where
  opened := socket_spares start .adapter
  streamed := socket_spares start .stream
  used on before after spares worked := by
    obtain ⟨call, added, about, _⟩ := worked.worked
    exact ⟨spares.since.add_one added (Call.onUsb_socket about), worked.usb.trans spares.store⟩
  closed on host spares := by
    obtain ⟨⟨result, added⟩, store⟩ := dropSocket_added on host
    exact ⟨spares.since.add_one added rfl, store.trans spares.store⟩

end Host

/-- All that is done with a USB device goes to the USB stack. -/
theorem Usb.alone_discipline (start : Host) :
    Usb.Discipline (Host.SinceUsb true start) fun _ _ => Host.SinceUsb true start where
  missing vendor product before after since added := since.add_one added rfl
  refused vendor product interface code before after since refused added :=
    since.add added (by simp [Call.onUsb])
  claimed vendor product interface before after since added :=
    since.add added (by simp [Call.onUsb])
  used on interface before call after since about works added :=
    since.add_one added (Call.onUsb_device about)
  closed on interface back before after since gives added :=
    since.add added fun call member => Call.onUsb_device (gives.about call member)

/-- Outcomes that differ at most in their value. -/
theorem ends_alike {ε α : Type} {one other : Except ε α}
    (same : one.map (fun _ => ()) = other.map (fun _ => ())) :
    one.isOk = other.isOk ∧ ∀ e, other = .error e → one = .error e := by
  cases one with
  | ok a =>
    cases other with
    | ok b => exact ⟨rfl, nofun⟩
    | error e => cases same
  | error e =>
    cases other with
    | ok b => cases same
    | error e' =>
      cases same
      exact ⟨rfl, fun _ => id⟩

/-- How opening a USB device ends is up to the answers of the USB stack. -/
theorem Usb.Link.open_outcome (vendor product : UInt16) (config : Config) (host : Host) :
    ((Link.open vendor product config).run host).1.map (fun _ => ()) =
      if (Host.answer host.script.usbOpen true).1 then
        if (Host.answer host.script.claim 0).1 = 0 then .ok ()
        else .error (.claim vendor product (Fault.ofCode (Host.answer host.script.claim 0).1))
      else .error (.deviceNotFound vendor product) := by
  simp only [Act.run, Link.open, Host.usbOpen]
  cases (Host.answer host.script.usbOpen true).1 with
  | false => rfl
  | true =>
    by_cases claimed : (Host.answer host.script.claim 0).1 = 0
    · simp only [if_true, Host.claim, Host.record, claimed, Except.map]
    · simp only [if_true, if_false, Host.claim, Host.record, claimed, Except.map]

namespace Device

variable {start : Host}

/-- An open radio link, and nothing but calls on sockets since `start`. -/
def Radioing (start : Host) : Device → Host → Prop :=
  Has (fun _ => Host.Spares start) fun _ _ _ => False

/-- An open USB link, and nothing but calls on the USB stack since `start`. -/
def Cabled (start : Host) : Device → Host → Prop :=
  Has (fun _ _ => False) fun _ _ => Host.SinceUsb true start

theorem openRadio_radioing (destination : String) (config : Radio.Config) :
    (openRadio destination config).Leads (Host.Spares start) (Radioing start)
      (Host.Spares start) :=
  openRadio_has (Host.spares_discipline start) destination config

theorem openUsb_cabled (vendor product : UInt16) (config : Usb.Config) :
    (openUsb vendor product config).Leads (Host.SinceUsb true start) (Cabled start)
      (Host.SinceUsb true start) :=
  openUsb_has (Usb.alone_discipline start) vendor product config

theorem keeps_radioing :
    Backend.Keeps fun state : Device × Host => Radioing start state.1 state.2 :=
  keeps_has (Host.spares_discipline start) .never

theorem keeps_cabled : Backend.Keeps fun state : Device × Host => Cabled start state.1 state.2 :=
  keeps_has .never (Usb.alone_discipline start)

theorem Radioing.close {device : Device} {host : Host} (has : device.Radioing start host) :
    Host.Spares start (Backend.close (device, host) : _ × Device × Host).2.2 :=
  (Has.close (Host.spares_discipline start) .never has).2.resolve_right id

theorem Cabled.close {device : Device} {host : Host} (has : device.Cabled start host) :
    Host.SinceUsb true start (Backend.close (device, host) : _ × Device × Host).2.2 :=
  (Has.close .never (Usb.alone_discipline start) has).2.resolve_left id

private theorem openUsb_outcome (vendor product : UInt16) (config : Usb.Config) (host : Host) :
    ((openUsb vendor product config).run host).1.map (fun _ => ()) =
      (((Usb.Link.open vendor product config).run host).1.map (fun _ => ())).mapError
        .ofTransport := by
  simp only [openUsb, Act.run, bind, Act.andThen, Act.mapError]
  rcases Usb.Link.open vendor product config host with ⟨_ | _, after⟩
  · rfl
  · rfl

/-- The USB attempt ends in the same way, whatever was done with sockets before. -/
theorem openUsb_store (vendor product : UInt16) (config : Usb.Config) {host other : Host}
    (same : host.script.usb = other.script.usb) :
    ((openUsb vendor product config).run host).1.map (fun _ => ()) =
      ((openUsb vendor product config).run other).1.map (fun _ => ()) := by
  have usbOpen : host.script.usbOpen = other.script.usbOpen := congrArg UsbStore.usbOpen same
  have claim : host.script.claim = other.script.claim := congrArg UsbStore.claim same
  -- Of the script, opening looks only at these two queues.
  simp only [openUsb_outcome, Usb.Link.open_outcome, usbOpen, claim]

/-- The fallback runs only after the first choice failed, on the host as it was left. -/
theorem firstAvailable_run (primary fallback : Act Host CommandError Device) (host : Host) :
    (firstAvailable primary fallback).run host =
      if (primary.run host).1.isOk then primary.run host
      else fallback.run (primary.run host).2 := by
  cases ended : primary.run host with
  | mk outcome reached =>
    simp only [Act.run] at ended
    cases outcome with
    | ok device => simp only [Act.run, firstAvailable, ended, Except.isOk, Except.toBool, if_true]
    | error e =>
      simp only [Act.run, firstAvailable, ended, Except.isOk, Except.toBool, Bool.false_eq_true,
        if_false]

/-- Where the fallback ends after the first choice as it ends elsewhere, the outcome is the one of
the first choice or else the one it has elsewhere. -/
theorem firstAvailable_outcome {primary fallback : Act Host CommandError Device} {host other : Host}
    (same : (fallback.run (primary.run host).2).1.map (fun _ => ()) =
      (fallback.run other).1.map (fun _ => ())) :
    ((firstAvailable primary fallback).run host).1.isOk =
        ((primary.run host).1.isOk || (fallback.run other).1.isOk) ∧
      ∀ e e', (primary.run host).1 = .error e → (fallback.run other).1 = .error e' →
        ((firstAvailable primary fallback).run host).1 = .error e' := by
  rw [firstAvailable_run]
  cases ended : primary.run host with
  | mk outcome reached =>
    rw [ended] at same
    cases outcome with
    | ok device =>
      refine ⟨rfl, fun e e' failed => ?_⟩
      cases failed
    | error e =>
      obtain ⟨isOk, error⟩ := ends_alike same
      refine ⟨isOk, fun _ e' _ failed => ?_⟩
      exact error e' failed

end Device

/-- A USB call comes after the calls that have nothing to do with USB. -/
theorem Call.onUsb_later {front behind before after : List Call} {call : Call}
    (parts : front ++ behind = before ++ call :: after)
    (front_spares : ∀ other ∈ front, other.onUsb = false) (onUsb : call.onUsb = true) :
    ∃ between, before = front ++ between := by
  rcases List.append_eq_append_iff.mp parts with ⟨between, same, _⟩ | ⟨between, same, rest⟩
  · exact ⟨between, same⟩
  · -- Otherwise the call would be one of those in front.
    cases between with
    | nil => exact ⟨[], by rw [same, List.append_nil, List.append_nil]⟩
    | cons first others =>
      rw [List.cons_append, List.cons.injEq] at rest
      have member : call ∈ front := by
        rw [same, rest.1]
        exact List.mem_append_right before List.mem_cons_self
      rw [front_spares call member] at onUsb
      cases onUsb

namespace Device

variable {start host : Host}

/-- The radio attempt leaves the USB stack as it found it, however it ends. -/
theorem openRadio_spares (destination : String) (config : Radio.Config)
    (spares : Host.Spares start host) :
    Host.Spares start ((openRadio destination config).run host).2 :=
  (openRadio_radioing destination config).ends (fun _ _ has => has.host.resolve_right id) spares

private theorem openUsb_since (vendor product : UInt16) (config : Usb.Config)
    (since : Host.SinceUsb true start host) :
    Host.SinceUsb true start ((openUsb vendor product config).run host).2 :=
  (openUsb_cabled vendor product config).ends (fun _ _ has => has.host.resolve_left id) since

variable (script : Script)

/-- A USB call is made only after the radio failed and all of its sockets were closed. -/
theorem openAny_order {before after : List Call} {call : Call}
    (parts : (openAny.run (Host.ofScript script)).2.calls = before ++ call :: after)
    (onUsb : call.onUsb = true) :
    ((openRadio Radio.defaultDestination).run (Host.ofScript script)).1.isOk = false ∧
      ∀ kind on, .socket kind (.ok on) ∈ (openAny.run (Host.ofScript script)).2.calls →
        ∃ result, .close on result ∈ before := by
  have start : Host.Spares (Host.ofScript script) (Host.ofScript script) := ⟨.refl _ _, rfl⟩
  have first := (openRadio_spares Radio.defaultDestination {} start).since.all
  -- Where the radio succeeded, its calls are all there are, and none of them is on USB.
  rw [openAny, firstAvailable_run] at parts ⊢
  cases ended : (openRadio Radio.defaultDestination).run (Host.ofScript script) with
  | mk outcome reached =>
    rw [ended] at first parts
    cases outcome with
    | ok device =>
      have member : call ∈ reached.calls := by
        have whole : reached.calls = before ++ call :: after := parts
        rw [whole]
        exact List.mem_append_right before List.mem_cons_self
      rw [first call member] at onUsb
      cases onUsb
    | error e =>
      refine ⟨rfl, fun kind on opened => ?_⟩
      -- A socket can only have been opened before, and what the radio left behind is balanced.
      have balanced := ((openRadio_holds Radio.defaultDestination {}).error
        (Host.tidy_ofScript script) ended).balanced
      obtain ⟨added, second, sort⟩ :=
        openUsb_since Usb.brickVendor Usb.brickProduct {} (.refl _ reached)
      have whole : reached.calls ++ added = before ++ call :: after := second.symm.trans parts
      have opened : .socket kind (.ok on) ∈ reached.calls ++ added := second ▸ opened
      rcases List.mem_append.mp opened with opened | late
      · obtain ⟨result, closed⟩ := balanced.closes_socket opened
        obtain ⟨between, rfl⟩ := Call.onUsb_later whole first onUsb
        exact ⟨result, List.mem_append_left between closed⟩
      · cases sort _ late

/-- The whole ends as the radio attempt does, or else as USB alone would have ended. -/
theorem openAny_outcome {other : Script} (same : other.usb = script.usb) :
    let radio := (openRadio Radio.defaultDestination).run (Host.ofScript script)
    let any := openAny.run (Host.ofScript script)
    let usb := openUsb.run (Host.ofScript other)
    any.1.isOk = (radio.1.isOk || usb.1.isOk) ∧
      ∀ e e', radio.1 = .error e → usb.1 = .error e' → any.1 = .error e' := by
  refine firstAvailable_outcome ?_
  have spares : Host.Spares (Host.ofScript script) (Host.ofScript script) := ⟨.refl _ _, rfl⟩
  -- After the radio attempt the USB stack has the same answers in store.
  exact openUsb_store _ _ _ ((openRadio_spares _ _ spares).store.trans same.symm)

end Device

end BrickControl
