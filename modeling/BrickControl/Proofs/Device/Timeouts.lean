import BrickControl.Proofs.Device.Footprint
import BrickControl.Proofs.Radio.Adapter

/-!
# Limits on waiting

Two waits have a configured limit: the one for a USB transfer, and the one for a packet while a name
is awaited. The USB stack is given whole milliseconds, as a 32-bit number, and the system seconds
and microseconds; to both of them zero is no limit at all. A limit is rounded down on the way, so
one that is shorter than the unit ends as no limit, and so does one that the 32 bits cut to zero.
-/
namespace BrickControl

/-- The limit of a transfer, in milliseconds. -/
def Call.transferLimit? : Call → Option Nat
  | .bulkOut _ _ _ timeout _ _ | .bulkIn _ _ _ timeout _ _ => some timeout
  | _ => none

/-- The time value that is set as the limit for receiving from a socket. -/
def Call.receiveLimit? : Call → Option Bytes
  | .setOption _ level name value _ => if level = 1 ∧ name = 20 then some value else none
  | _ => none

/-- The number that a field of eight bytes stands for, which has a sign. -/
def signedField (field : Bytes) : Int :=
  if Bytes.value field < 9223372036854775808 then Bytes.value field
  else Bytes.value field - 18446744073709551616

/-- The seconds and the microseconds of a time value, as the system reads them. -/
def systemTime (value : Bytes) : Int × Int :=
  (signedField (value.take 8), signedField (value.drop 8))

section

variable {d : Duration}

theorem seconds_micros (d : Duration) :
    d.seconds * 1000000 + d.microsOfSecond = d.nanos / 1000 := by
  simp only [Duration.seconds, Duration.microsOfSecond]
  omega

private theorem signedField_littleEndian {n : Nat} (fits : n < 18446744073709551616) :
    signedField (Bytes.littleEndian 8 n) =
      if n < 9223372036854775808 then (n : Int) else n - 18446744073709551616 := by
  have width : Nat.pow 256 8 = 18446744073709551616 := by decide
  have whole : Bytes.value (Bytes.littleEndian 8 n) = n := by
    rw [Bytes.value_littleEndian, width, Nat.mod_eq_of_lt fits]
  rw [signedField, whole]

/-- Microseconds are few, but the seconds may turn out to be negative. -/
theorem systemTime_timeValue (fits : d.seconds < 18446744073709551616) :
    systemTime (Radio.Adapter.timeValue d) =
      (if d.seconds < 9223372036854775808 then (d.seconds : Int)
        else d.seconds - 18446744073709551616, (d.microsOfSecond : Int)) := by
  have front := Bytes.length_littleEndian 8 d.seconds
  have few : d.microsOfSecond < 1000000 := by
    simp only [Duration.microsOfSecond]
    omega
  have micros : signedField (Bytes.littleEndian 8 d.microsOfSecond) = d.microsOfSecond := by
    rw [signedField_littleEndian (by omega), if_pos (by omega)]
  -- Both fields have their eight bytes, so the second one starts where the first one ends.
  rw [systemTime, Radio.Adapter.timeValue, List.take_left' front, List.drop_left' front,
    signedField_littleEndian fits, micros]

/-- The system reads the time that was meant unless the seconds are too many for their sign. -/
private theorem systemTime_exact_iff (fits : d.seconds < 18446744073709551616) :
    systemTime (Radio.Adapter.timeValue d) = (↑d.seconds, ↑d.microsOfSecond) ↔
      d.seconds < 9223372036854775808 := by
  rw [systemTime_timeValue fits, Prod.mk.injEq]
  split
  next small => simp only [and_self, small]
  next large =>
    -- So many seconds are read as a negative number, which is not the number of seconds.
    simp only [and_true, large, iff_false]
    omega

/-- The system reads no limit where there is less than a microsecond. -/
private theorem systemTime_zero_iff (fits : d.seconds < 18446744073709551616) :
    systemTime (Radio.Adapter.timeValue d) = (0, 0) ↔ d.nanos < 1000 := by
  have whole := seconds_micros d
  rw [systemTime_timeValue fits, Prod.mk.injEq]
  -- Neither a negative number of seconds nor a positive one is zero; what is left are the
  -- microseconds.
  split
  next => omega
  next => omega

/-- The USB stack is given no limit where the milliseconds are cut to zero. -/
private theorem transferTimeout_zero_iff :
    Usb.Link.transferTimeout d = 0 ↔ 4294967296 ∣ d.nanos / 1000000 :=
  Nat.dvd_iff_mod_eq_zero.symm

end

/-- An adapter is ready only after the system accepted the limit for its packets. -/
theorem Radio.Adapter.Prepared.limited {config : Config} {host ready : Host} {adapter : Adapter}
    (prepared : Prepared config host adapter ready) :
    .setOption adapter.socket 1 20 (timeValue config.nameTimeout) (.ok ()) ∈ ready.calls := by
  obtain ⟨lookup, closing, added⟩ := prepared.added
  rw [added.calls]
  exact List.mem_append_right _ (by simp)

namespace Opening

/-- The settings of the USB device, if one is opened. -/
def usbConfig : Opening → Usb.Config
  | .usb _ _ config => config
  | _ => {}

/-- The settings of the search for a peer, if there is one. -/
def radioConfig : Opening → Radio.Config
  | .radio _ config => config
  | _ => {}

private theorem radio_limits {config : Radio.Config} {call : Call}
    (dials : Radio.Dials config call) :
    call.transferLimit? = none ∧ ∀ value, call.receiveLimit? = some value →
      value = Radio.Adapter.timeValue config.nameTimeout := by
  cases call with
  | setOption on level name value result =>
    refine ⟨rfl, fun found set => ?_⟩
    obtain ⟨⟨level, name⟩, same⟩ := Option.ite_none_right_eq_some.mp set
    cases same
    exact dials level name
  | bulkOut => exact dials.elim
  | bulkIn => exact dials.elim
  | _ => exact ⟨rfl, nofun⟩

private theorem usb_limits {vendor product : UInt16} {config : Usb.Config} {call : Call}
    (finds : Usb.Finds vendor product config call) :
    call.transferLimit? = none ∧ call.receiveLimit? = none := by
  cases call with
  | usbOpen => exact ⟨rfl, rfl⟩
  | claim => exact ⟨rfl, rfl⟩
  | usbClose => exact ⟨rfl, rfl⟩
  | _ => exact finds.elim

private theorem Dials.limits {opening : Opening} {call : Call} (dials : opening.Dials call) :
    call.transferLimit? = none ∧ ∀ value, call.receiveLimit? = some value →
      value = Radio.Adapter.timeValue opening.radioConfig.nameTimeout := by
  have usb {vendor product : UInt16} {config : Usb.Config}
      (finds : Usb.Finds vendor product config call) :
      call.transferLimit? = none ∧ ∀ value, call.receiveLimit? = some value →
        value = Radio.Adapter.timeValue opening.radioConfig.nameTimeout := by
    obtain ⟨transfer, receive⟩ := usb_limits finds
    exact ⟨transfer, fun value set => absurd (receive.symm.trans set) (by simp)⟩
  cases opening with
  | radio destination config => exact radio_limits dials
  | usb vendor product config => exact usb dials
  | any => exact dials.elim radio_limits usb

private theorem radio_carries_limits {link : Radio.Link} {call : Call}
    (carries : (Device.radio link).Carries call) :
    call.receiveLimit? = none ∧ call.transferLimit? = none := by
  rcases carries with sends | receives | returns
  · cases call with
    | send => exact ⟨rfl, rfl⟩
    | _ => exact sends.elim
  · cases call with
    | receive => exact ⟨rfl, rfl⟩
    | _ => exact receives.elim
  · cases call with
    | close => exact ⟨rfl, rfl⟩
    | _ => exact returns.elim

private theorem usb_carries_limits {link : Usb.Link} {call : Call}
    (carries : (Device.usb link).Carries call) :
    call.receiveLimit? = none ∧ ∀ limit, call.transferLimit? = some limit →
      limit = Usb.Link.transferTimeout link.config.timeout := by
  rcases carries with sends | receives | returns
  · cases call with
    | bulkOut =>
      refine ⟨rfl, ?_⟩
      rintro _ ⟨⟩
      exact sends.2
    | _ => exact sends.elim
  · cases call with
    | bulkIn =>
      refine ⟨rfl, ?_⟩
      rintro _ ⟨⟩
      exact receives.2
    | _ => exact receives.elim
  · cases call with
    | release => exact ⟨rfl, nofun⟩
    | usbClose => exact ⟨rfl, nofun⟩
    | _ => exact returns.elim

private theorem Reaches.limits {opening : Opening} {device : Device} {call : Call}
    (reaches : opening.Reaches device) (carries : device.Carries call) :
    call.receiveLimit? = none ∧ ∀ limit, call.transferLimit? = some limit →
      limit = Usb.Link.transferTimeout opening.usbConfig.timeout := by
  cases device with
  | radio link =>
    obtain ⟨receive, transfer⟩ := radio_carries_limits carries
    exact ⟨receive, fun limit set => absurd (transfer.symm.trans set) (by simp)⟩
  | usb link =>
    have settings : link.config = opening.usbConfig := by
      cases opening with
      | radio => exact reaches.elim
      | usb => exact reaches
      | any => exact reaches
    rw [← settings]
    exact usb_carries_limits carries

/-- Every limit that is set is the configured one, rounded down to its unit. A limit for a transfer
is none where the 32-bit number of milliseconds is zero, and one for a packet where there is less
than a microsecond of it. -/
theorem life_limits (opening : Opening) (uses : List Use) (script : Script) :
    let transfer := opening.usbConfig.timeout
    let packet := opening.radioConfig.nameTimeout
    (∀ call ∈ (opening.life uses (Host.ofScript script)).calls,
      (∀ limit, call.transferLimit? = some limit →
        limit = transfer.nanos / 1000000 % 4294967296 ∧
        (limit = 0 ↔ 4294967296 ∣ transfer.nanos / 1000000) ∧
        (1000000 ≤ transfer.nanos → transfer.nanos / 1000000 < 4294967296 → limit ≠ 0)) ∧
      (∀ value, call.receiveLimit? = some value → packet.seconds < 18446744073709551616 →
        (systemTime value = (↑packet.seconds, ↑packet.microsOfSecond) ↔
          packet.seconds < 9223372036854775808) ∧
        packet.seconds * 1000000 + packet.microsOfSecond = packet.nanos / 1000 ∧
        (systemTime value = (0, 0) ↔ packet.nanos < 1000))) ∧
    ∀ config host adapter ready, (Radio.Adapter.open config).run host = (.ok adapter, ready) →
      .setOption adapter.socket 1 20 (Radio.Adapter.timeValue config.nameTimeout) (.ok ()) ∈
        ready.calls := by
  intro transfer packet
  refine ⟨fun call member => ⟨fun limit set => ?_, fun value set fits => ?_⟩, ?_⟩
  · -- Opening limits no transfer, and the device that is opened has the settings it was given.
    have same : limit = Usb.Link.transferTimeout transfer := by
      rcases opening.life_footprint uses script call member with dials | ⟨device, reaches, carries⟩
      · rw [dials.limits.1] at set
        cases set
      · exact (reaches.limits carries).2 limit set
    rw [same]
    refine ⟨rfl, transferTimeout_zero_iff, fun long small zero => ?_⟩
    -- A number of milliseconds that is not zero and fits 32 bits is no multiple of their range.
    obtain ⟨k, multiple⟩ := transferTimeout_zero_iff.mp zero
    omega
  · -- Packets are awaited while a peer is searched for, and not by the link that is opened.
    have same : value = Radio.Adapter.timeValue packet := by
      rcases opening.life_footprint uses script call member with dials | ⟨device, reaches, carries⟩
      · exact dials.limits.2 value set
      · rw [(reaches.limits carries).1] at set
        cases set
    rw [same]
    exact ⟨systemTime_exact_iff fits, seconds_micros packet, systemTime_zero_iff fits⟩
  · intro config host adapter ready opened
    have start : Host.Traced (fun script => script.adapters = host.script.adapters ∧
        script.inquiry = host.script.inquiry) host [] 0 host := Host.traced_nil ⟨rfl, rfl⟩
    exact ((Radio.Adapter.open_leads config host).ok start opened).limited

/-- A limit of almost two milliseconds is one of one, and what is left of a microsecond is cut
off. -/
theorem life_limits_rounded :
    let usb : Opening := .usb Usb.brickVendor Usb.brickProduct { timeout := ⟨1999999⟩ }
    let radio : Opening := .radio "NXT" { nameTimeout := ⟨1500000999⟩ }
    (∃ call ∈ (usb.life [.write [0x80, 0x0B]] (Host.ofScript {})).calls, ∃ limit,
      call.transferLimit? = some limit ∧ limit = 1) ∧
    (∃ call ∈ (radio.life [] (Host.ofScript {})).calls, ∃ value,
      call.receiveLimit? = some value ∧ systemTime value = (1, 500000)) := by
  intro usb radio
  have written : ∃ call ∈ (usb.life [.write [0x80, 0x0B]] (Host.ofScript {})).calls,
      call.transferLimit?.isSome := by decide +kernel
  have searched : ∃ call ∈ (radio.life [] (Host.ofScript {})).calls,
      call.receiveLimit?.isSome := by decide +kernel
  obtain ⟨call, member, limited⟩ := written
  obtain ⟨limit, set⟩ := Option.isSome_iff_exists.mp limited
  obtain ⟨call', member', limited'⟩ := searched
  obtain ⟨value, set'⟩ := Option.isSome_iff_exists.mp limited'
  have transfer := ((life_limits usb _ {}).1 call member).1 limit set
  have packet := ((life_limits radio [] {}).1 call' member').2 value set' (by decide)
  exact ⟨⟨call, member, limit, set, transfer.1.trans (by decide)⟩, call', member', value, set',
    (packet.1.mpr (by decide)).trans (by decide)⟩

/-- Half a millisecond ends as no limit for a transfer, and the last nanosecond below a microsecond
as no limit for a packet. -/
theorem life_limits_vanish :
    let usb : Opening := .usb Usb.brickVendor Usb.brickProduct { timeout := .ofMicros 500 }
    let radio : Opening := .radio "NXT" { nameTimeout := .ofNanos 999 }
    usb.usbConfig.timeout ≠ .zero ∧ radio.radioConfig.nameTimeout ≠ .zero ∧
    (∃ call ∈ (usb.life [.write [0x80, 0x0B]] (Host.ofScript {})).calls,
      call.transferLimit? = some 0) ∧
    (∃ call ∈ (radio.life [] (Host.ofScript {})).calls,
      call.receiveLimit?.map systemTime = some (0, 0)) := by
  decide +kernel

end Opening
end BrickControl
