import BrickControl.Proofs.Backend.Journal
import BrickControl.Proofs.Device.Links

/-!
# The calls on a device

What moving bytes over a device can fail with, and what an open device leaves on its host: calls on
its own resource, of which the last one gives it back.
-/
namespace BrickControl

open Host (Added Since)

/-- Calls that are made again under an invariant keep it. -/
theorem Host.persist_keeps {α : Type} {I : Host → Prop} {act : Act Host Errno α}
    (once : ∀ host, I host → I (act.run host).2) (patience : Nat) {host : Host} (holds : I host) :
    I ((Host.persist act patience).run host).2 := by
  induction patience generalizing host with
  | zero => exact once host holds
  | succ patience ih =>
    have first := once host holds
    simp only [Act.run, Host.persist] at first ⊢
    cases ended : act host with
    | mk outcome after =>
      rw [ended] at first
      cases outcome with
      | ok a => exact first
      | error e =>
        -- The next try starts on the host that the interrupted one left, where the invariant holds.
        dsimp only
        split
        · exact ih first
        · exact first

/-- An act that can fail so many times only does not end in an interruption. -/
theorem Host.persist_final {α : Type} {left : Host → Nat} {act : Act Host Errno α}
    (uses : ∀ host e after, act.run host = (.error e, after) → left after < left host)
    {patience : Nat} {host after : Host} {e : Errno} (enough : left host ≤ patience)
    (failed : (Host.persist act patience).run host = (.error e, after)) :
    e.kind ≠ .interrupted := by
  induction patience generalizing host with
  | zero =>
    -- Without patience there is no failure left either.
    have := uses host e after failed
    omega
  | succ patience ih =>
    simp only [Act.run, Host.persist] at failed
    cases ended : act host with
    | mk outcome between =>
      rw [ended] at failed
      cases outcome with
      | ok a => cases failed
      | error e' =>
        dsimp only at failed
        split at failed
        next interrupted =>
          have fewer := uses host e' between ended
          exact ih (by omega) failed
        next final =>
          cases failed
          exact final

/-- What is not prepared succeeds, so a failure uses up an answer that was. -/
theorem Host.answer_failed {α : Type} {queue : List (Except Errno α)} {ordinary : α} {e : Errno}
    (failed : (answer queue (.ok ordinary)).1 = .error e) :
    (answer queue (.ok ordinary)).2.length < queue.length := by
  cases queue with
  | nil => cases failed
  | cons first rest => exact Nat.lt_succ_self _

/-- A send that fails uses up one of the answers that are left. -/
theorem Host.send_uses (on : Descriptor) (data : Bytes) (host : Host) (e : Errno) (after : Host)
    (failed : (send on data).run host = (.error e, after)) :
    after.script.send.length < host.script.send.length := by
  have outcome : (answer host.script.send (.ok none)).1.map (taken · data) = .error e :=
    congrArg Prod.fst failed
  have rest : (answer host.script.send (.ok none)).2 = after.script.send :=
    congrArg (fun ended => ended.2.script.send) failed
  cases token : (answer host.script.send (.ok none)).1 with
  | ok limit =>
    rw [token] at outcome
    cases outcome
  | error e' =>
    rw [← rest]
    exact answer_failed token

theorem Host.receive_uses (on : Descriptor) (room : Nat) (host : Host) (e : Errno) (after : Host)
    (failed : (receive on room).run host = (.error e, after)) :
    after.script.receive.length < host.script.receive.length := by
  simp only [Act.run, receive] at failed
  split at failed
  · cases failed
  next token refused =>
    cases failed
    exact answer_failed refused

theorem Host.Since.trans {sort : Call → Prop} {first second third : Host}
    (since : Since sort first second) (later : Since sort second third) :
    Since sort first third := by
  obtain ⟨calls, made, all⟩ := since
  obtain ⟨calls', made', all'⟩ := later
  exact ⟨calls ++ calls', by rw [made', made, List.append_assoc],
    List.forall_mem_append.mpr ⟨all, all'⟩⟩

namespace Device

/-- The resource of an open device. -/
def resource? : Device → Option Resource
  | .radio link => link.descriptor.map .socket
  | .usb link => link.handle.map .device

/-- The call uses the device, and neither opens it nor gives it back. -/
def Uses (device : Device) (call : Call) : Prop :=
  call.works ∧ call.resource? = device.resource?

/-- The failures with which a device moves no bytes. -/
inductive Reports (device : Device) : TransportError → Prop where
  | closed (gone : device.resource? = none) : Reports device .closed
  | io {cause : Errno} (final : cause.kind ≠ .interrupted) : Reports device (.io (.system cause))
  | usb (fault : Usb.Fault) : Reports device (.usb fault)

theorem reports_transfer {device : Device} {code : Int} {count : Nat} {e : TransportError}
    (failed : Usb.Link.transferResult code count = .error e) : device.Reports e := by
  simp only [Usb.Link.transferResult] at failed
  split at failed
  · cases failed
  · split at failed
    · cases failed
    · cases failed
      exact .usb _

private theorem since_worked {on : Descriptor} {start before after : Host} {device : Device}
    (opened : device.resource? = some (.socket on)) (worked : Host.WorkedOn on before after)
    (since : Since device.Uses start before) : Since device.Uses start after := by
  obtain ⟨call, added, about, works⟩ := worked.worked
  exact since.add_one added ⟨works, about.trans opened.symm⟩

theorem since_transferred {on : UsbHandle} {before after : Host} {device : Device}
    (opened : device.resource? = some (.device on)) (moved : Host.Transferred on before after) :
    Since device.Uses before after := by
  rcases moved with rfl | ⟨call, about, works, added⟩
  · exact .refl _ _
  · exact (Since.refl _ _).add_one added ⟨works, about.trans opened.symm⟩

/-- A call that is made again while it is interrupted uses the device each time, and ends in no
interruption. -/
theorem persist_reports {α : Type} {device : Device} {on : Descriptor} {act : Act Host Errno α}
    {left : Host → Nat} (opened : device.resource? = some (.socket on))
    (works : ∀ host, Host.WorkedOn on host (act.run host).2)
    (uses : ∀ host e after, act.run host = (.error e, after) → left after < left host)
    {host after : Host} {outcome : Except Errno α}
    (ended : Host.persist act (left host) host = (outcome, after)) :
    Since device.Uses host after ∧
      ∀ e, outcome = .error e → device.Reports (.io (.system e)) := by
  constructor
  · have since := Host.persist_keeps (I := Since device.Uses host)
      (fun _ => since_worked opened (works _)) (left host) (.refl _ _)
    rwa [Act.run, ended] at since
  · rintro e rfl
    exact .io (Host.persist_final uses (Nat.le_refl _) ended)

theorem resource_radio {link : Radio.Link} {descriptor : Option Descriptor}
    (known : link.descriptor = descriptor) :
    (Device.radio link).resource? = descriptor.map .socket := by
  rw [resource?, known]

theorem resource_usb {link : Usb.Link} {handle : Option UsbHandle} (known : link.handle = handle) :
    (Device.usb link).resource? = handle.map .device := by
  rw [resource?, known]

/-- A read leaves the device as it is, and nothing but calls on its resource. -/
theorem read_reports (room : Nat) (device : Device) (host : Host) :
    ∃ delivery after, Backend.read room (device, host) = (delivery, device, after) ∧
      Since device.Uses host after ∧ ∀ e, delivery.outcome = .error e → device.Reports e := by
  cases device with
  | radio link =>
    cases opened : link.descriptor with
    | none =>
      simp only [Backend.read, opened]
      refine ⟨_, _, rfl, .refl _ _, ?_⟩
      rintro e ⟨⟩
      exact .closed (resource_radio opened)
    | some on =>
      simp only [Backend.read, opened]
      cases ended : Host.persist (Host.receive on room) host.script.receive.length host with
      | mk outcome after =>
        obtain ⟨since, reports⟩ := persist_reports (resource_radio opened)
          (fun _ => Host.workedOn_receive room) (Host.receive_uses on room) ended
        cases outcome with
        | ok data => exact ⟨_, _, rfl, since, by rintro e ⟨⟩⟩
        | error e =>
          refine ⟨_, _, rfl, since, ?_⟩
          rintro _ ⟨⟩
          exact reports e rfl
  | usb link =>
    cases opened : link.handle with
    | none =>
      simp only [Backend.read, opened]
      refine ⟨_, _, rfl, .refl _ _, ?_⟩
      rintro e ⟨⟩
      exact .closed (resource_usb opened)
    | some on =>
      simp only [Backend.read, opened]
      -- Without an endpoint for its direction a transfer fails before any call.
      split
      · exact ⟨_, _, rfl,
          since_transferred (resource_usb opened) (Host.transferred_bulkIn on _ room _),
          fun e => reports_transfer⟩
      · refine ⟨_, _, rfl, .refl _ _, ?_⟩
        rintro e ⟨⟩
        exact .usb _

/-- A write leaves the device as it is, and nothing but calls on its resource. -/
theorem write_reports (data : Bytes) (device : Device) (host : Host) :
    ∃ outcome after, Backend.write data (device, host) = (outcome, device, after) ∧
      Since device.Uses host after ∧ ∀ e, outcome = .error e → device.Reports e := by
  cases device with
  | radio link =>
    cases opened : link.descriptor with
    | none =>
      simp only [Backend.write, opened]
      refine ⟨_, _, rfl, .refl _ _, ?_⟩
      rintro e ⟨⟩
      exact .closed (resource_radio opened)
    | some on =>
      simp only [Backend.write, opened]
      cases ended : Host.persist (Host.send on data) host.script.send.length host with
      | mk outcome after =>
        obtain ⟨since, reports⟩ := persist_reports (resource_radio opened)
          (fun _ => Host.workedOn_send data) (Host.send_uses on data) ended
        cases outcome with
        | ok n => exact ⟨_, _, rfl, since, by rintro e ⟨⟩⟩
        | error e =>
          refine ⟨_, _, rfl, since, ?_⟩
          rintro _ ⟨⟩
          exact reports e rfl
  | usb link =>
    cases opened : link.handle with
    | none =>
      simp only [Backend.write, opened]
      refine ⟨_, _, rfl, .refl _ _, ?_⟩
      rintro e ⟨⟩
      exact .closed (resource_usb opened)
    | some on =>
      simp only [Backend.write, opened]
      -- As for a read: without an endpoint for its direction a transfer fails before any call.
      split
      · refine ⟨_, _, rfl, .refl _ _, ?_⟩
        rintro e ⟨⟩
        exact .usb _
      · exact ⟨_, _, rfl,
          since_transferred (resource_usb opened) (Host.transferred_bulkOut on _ data _),
          fun e => reports_transfer⟩

private theorem Reports.not_interrupted {device : Device} {e : TransportError}
    (reports : device.Reports e) : e.isInterruption = false := by
  cases reports with
  | closed => rfl
  | io final => exact decide_eq_false final
  | usb => rfl

instance patient : Backend.Patient (Device × Host) where
  read := by
    rintro buffer ⟨device, host⟩ e failed
    obtain ⟨delivery, after, ended, _, reports⟩ := read_reports buffer.length device host
    have once : (Backend.readOnce buffer (device, host)).1.outcome = .error e := failed
    rw [Backend.readOnce, ended] at once
    exact (reports e once).not_interrupted
  write := by
    rintro data ⟨device, host⟩ e failed
    obtain ⟨outcome, after, ended, _, reports⟩ := write_reports data device host
    have once : (Backend.write data (device, host)).1 = .error e := failed
    rw [ended] at once
    exact (reports e once).not_interrupted

/-- The device is as it was, and since `start` it was only used. -/
structure Working (device : Device) (start : Host) (state : Device × Host) : Prop where
  same : state.1 = device
  since : Since device.Uses start state.2

/-- Reading and writing a device is nothing but use of it. -/
theorem working_keeps (device : Device) (start : Host) : Backend.Keeps (device.Working start) where
  read := by
    rintro room ⟨device, host⟩ ⟨rfl, since⟩
    obtain ⟨delivery, after, ended, more, _⟩ := read_reports room device host
    rw [ended]
    exact ⟨rfl, since.trans more⟩
  write := by
    rintro data ⟨device, host⟩ ⟨rfl, since⟩
    obtain ⟨outcome, after, ended, more, _⟩ := write_reports data device host
    rw [ended]
    exact ⟨rfl, since.trans more⟩

/-- The device is open, and no call found it closed. -/
structure Open (device : Device) (state : Journaled (Device × Host)) : Prop where
  same : state.backend.1 = device
  never : ∀ call ∈ state.journal, call.reported ≠ .error .closed

theorem open_keeps {device : Device} {resource : Resource}
    (opened : device.resource? = some resource) : Backend.Keeps device.Open := by
  -- Of the failures of a device being closed is the one that has no resource.
  have settled {reported : Except TransportError Nat}
      (reports : ∀ e, reported = .error e → device.Reports e) : reported ≠ .error .closed := by
    intro failed
    cases reports _ failed with
    | closed gone =>
      rw [opened] at gone
      cases gone
  constructor
  · rintro room ⟨⟨_, host⟩, journal⟩ ⟨rfl, never⟩
    obtain ⟨delivery, after, ended, _, reports⟩ := read_reports room _ host
    rw [Journaled.read_run, ended]
    refine ⟨rfl, ?_⟩
    rw [List.forall_mem_append, List.forall_mem_singleton]
    exact ⟨never, settled reports⟩
  · rintro data ⟨⟨_, host⟩, journal⟩ ⟨rfl, never⟩
    obtain ⟨outcome, after, ended, _, reports⟩ := write_reports data _ host
    rw [Journaled.write_run, ended]
    refine ⟨rfl, ?_⟩
    rw [List.forall_mem_append, List.forall_mem_singleton]
    exact ⟨never, settled reports⟩

/-- Closing an open device ends with the one call that gives its resource back. -/
theorem close_last {device : Device} {resource : Resource}
    (opened : device.resource? = some resource) (host : Host) :
    ∃ back last, (Backend.close (device, host) : _ × Device × Host).2.2.calls =
        host.calls ++ back ++ [last] ∧
      (∀ call ∈ back, call.resource? = some resource ∧ call.opens = false ∧ call.closes = false) ∧
      last.resource? = some resource ∧ last.closes := by
  cases device with
  | radio link =>
    obtain ⟨on, known, rfl⟩ := Option.map_eq_some_iff.mp opened
    obtain ⟨⟨result, added⟩, _⟩ := Host.dropSocket_added on host
    refine ⟨[], .close on result, ?_, by simp, rfl, rfl⟩
    rw [List.append_nil, ← added.calls]
    simp only [Backend.close, known, Host.dropSocket]
    cases Host.close on host with
    | mk outcome after => cases outcome <;> rfl
  -- Over USB the interface is released before the device is closed.
  | usb link =>
    obtain ⟨on, known, rfl⟩ := Option.map_eq_some_iff.mp opened
    obtain ⟨outcome, after, back, ended, gives, added⟩ := Usb.Link.close_gives known host
    refine ⟨back, .usbClose on, ?_, ?_, rfl, rfl⟩
    · have whole : (Backend.close (Device.usb link, host) : _ × Device × Host) =
          (outcome, .usb { link with handle := none }, after) := by
        simp only [Backend.close] at ended ⊢
        rw [ended]
      rw [whole, added.calls, List.append_assoc]
    · intro call member
      exact ⟨gives.about call (List.mem_append_left _ member), gives.neither call member⟩

/-- From `host` on there were only calls on the resource of the device, and the last one of them,
which is the only one of its kind, gave it back. -/
def GivenBack (device : Device) (host ended : Host) : Prop :=
  ∃ resource uses last, device.resource? = some resource ∧
    ended.calls = host.calls ++ uses ++ [last] ∧
    (∀ call ∈ uses, call.resource? = some resource ∧ call.opens = false ∧ call.closes = false) ∧
    last.resource? = some resource ∧ last.closes

/-- A device that was only used is given back by its close. -/
theorem Working.givenBack {device : Device} {resource : Resource} {start : Host}
    {state : Device × Host} (opened : device.resource? = some resource)
    (working : device.Working start state) :
    device.GivenBack start (Backend.close state : _ × Device × Host).2.2 := by
  obtain ⟨_, host⟩ := state
  obtain ⟨rfl, calls, made, uses⟩ := working
  obtain ⟨back, last, ended, others, about, closes⟩ := close_last opened host
  refine ⟨resource, calls ++ back, last, opened, ?_, ?_, about, closes⟩
  · rw [ended, made, List.append_assoc start.calls]
  · rw [List.forall_mem_append]
    refine ⟨fun call member => ?_, others⟩
    obtain ⟨works, same⟩ := uses call member
    exact ⟨same.trans opened, works_neither works⟩

theorem Has.opened {held : Descriptor → Host → Prop} {held' : UsbHandle → UInt8 → Host → Prop}
    {device : Device} {host : Host} (has : device.Has held held' host) :
    ∃ resource, device.resource? = some resource := by
  cases device with
  | radio link =>
    obtain ⟨on, known, _⟩ := has
    exact ⟨_, resource_radio known⟩
  | usb link =>
    obtain ⟨on, known, _⟩ := has
    exact ⟨_, resource_usb known⟩

end Device
end BrickControl
