import BrickControl.Proofs.Backend.Alike
import BrickControl.Proofs.Host.Holding
import BrickControl.Radio.Link

/-!
# The sockets of a radio link

A radio link has one socket at a time: one to look for an adapter, one for the adapter itself while
a name is resolved, and then the one of the stream. A `Scanning` tells of a property without a
socket and of a property with one how opening, using and closing an adapter's socket lead from one
to the other, and a `Discipline` tells it of the stream's socket too. Whatever it is, it holds of
the whole way to a link, and of the link.
-/
namespace BrickControl

/-- What a script holds in store for the USB stack. -/
structure UsbStore where
  usbOpen : List Bool
  claim : List Int
  release : List Int
  bulkOut : List BulkOut
  bulkIn : List BulkIn

def Script.usb (script : Script) : UsbStore :=
  ⟨script.usbOpen, script.claim, script.release, script.bulkOut, script.bulkIn⟩

namespace Host

/-- One more call that works on a socket, and nothing that could matter to USB. -/
structure WorkedOn (on : Descriptor) (before after : Host) : Prop where
  worked : ∃ call, Added before [call] 0 after ∧ call.resource? = some (.socket on) ∧ call.works
  usb : after.script.usb = before.script.usb

variable {on : Descriptor} {host : Host}

theorem workedOn_of {before after : Host} (call : Call) (made : after.made = call :: before.made)
    (next : after.next = before.next) (usb : after.script.usb = before.script.usb)
    (about : call.resource? = some (.socket on)) (works : call.works) :
    WorkedOn on before after where
  worked := ⟨call, added_of made next, about, works⟩
  usb := usb

private theorem workedOn_bind (address : Bytes) : WorkedOn on host (bind on address host).2 :=
  workedOn_of (.bind on address _) rfl rfl rfl rfl rfl

private theorem workedOn_connect (address : Bytes) : WorkedOn on host (connect on address host).2 :=
  workedOn_of (.connect on address _) rfl rfl rfl rfl rfl

theorem workedOn_setOption (level name : Nat) (value : Bytes) :
    WorkedOn on host (setOption on level name value host).2 :=
  workedOn_of (.setOption on level name value _) rfl rfl rfl rfl rfl

private theorem workedOn_adapters (room : Nat) : WorkedOn on host (adapters on room host).2 :=
  workedOn_of (.adapters on room _) rfl rfl rfl rfl rfl

private theorem workedOn_inquiry (request : Bytes) : WorkedOn on host (inquiry on request host).2 :=
  workedOn_of (.inquiry on request _) rfl rfl rfl rfl rfl

private theorem workedOn_read (room : Nat) : WorkedOn on host (read on room host).2 :=
  workedOn_of (.read on room _) rfl rfl rfl rfl rfl

private theorem workedOn_write (data : Bytes) : WorkedOn on host (write on data host).2 :=
  workedOn_of (.write on data _) rfl rfl rfl rfl rfl

theorem workedOn_send (data : Bytes) : WorkedOn on host (send on data host).2 :=
  workedOn_of (.send on data _) rfl rfl rfl rfl rfl

theorem workedOn_receive (room : Nat) : WorkedOn on host (receive on room host).2 := by
  simp only [receive]
  split
  · exact workedOn_of (.receive on room _) rfl rfl rfl rfl rfl
  · exact workedOn_of (.receive on room _) rfl rfl rfl rfl rfl

/-- A socket that was opened has the next number. -/
theorem socket_added (kind : SocketKind) (host : Host) :
    ∃ result after, socket kind host = (result, after) ∧
      after.script.usb = host.script.usb ∧
      ((∃ e, result = .error e ∧ Added host [.socket kind (.error e)] 0 after) ∨
        (result = .ok ⟨host.next⟩ ∧ Added host [.socket kind (.ok ⟨host.next⟩)] 1 after)) := by
  simp only [socket]
  cases (answer host.script.socket (.ok ())).1 with
  | error e => exact ⟨_, _, rfl, rfl, .inl ⟨e, rfl, added_of rfl rfl⟩⟩
  | ok => exact ⟨_, _, rfl, rfl, .inr ⟨rfl, added_of rfl rfl⟩⟩

theorem socket_leads (kind : SocketKind) {before failed : Host → Prop}
    {after : Descriptor → Host → Prop}
    (fails : ∀ e host reached, before host → reached.script.usb = host.script.usb →
      Added host [.socket kind (.error e)] 0 reached → failed reached)
    (opens : ∀ host reached, before host → reached.script.usb = host.script.usb →
      Added host [.socket kind (.ok ⟨host.next⟩)] 1 reached → after ⟨host.next⟩ reached) :
    (socket kind).Leads before after failed := by
  intro host holds
  obtain ⟨result, reached, ended, usb, none | got⟩ := socket_added kind host
  · obtain ⟨e, rfl, added⟩ := none
    simp only [Act.run, ended]
    exact fails e host reached holds usb added
  · obtain ⟨rfl, added⟩ := got
    simp only [Act.run, ended]
    exact opens host reached holds usb added

theorem dropSocket_added (on : Descriptor) (host : Host) :
    (∃ result, Added host [.close on result] 0 (dropSocket on host)) ∧
      (dropSocket on host).script.usb = host.script.usb :=
  ⟨⟨_, added_of rfl rfl⟩, rfl⟩

end Host

/-- How opening, using and closing an adapter's socket lead from `free` to `held` and back. -/
structure Scanning (free : Host → Prop) (held : Descriptor → Host → Prop) : Prop where
  opened : (Host.socket .adapter).Leads free held free
  used : ∀ on before after, held on before → Host.WorkedOn on before after → held on after
  closed : ∀ on host, held on host → free (Host.dropSocket on host)

/-- The same, and opening the socket of a stream does so as well. -/
structure Discipline (free : Host → Prop) (held : Descriptor → Host → Prop) : Prop
    extends Scanning free held where
  streamed : (Host.socket .stream).Leads free held free

/-- Where nothing can be held, there is nothing to keep. -/
theorem Discipline.never : Discipline (fun _ => False) fun _ _ => False where
  opened _ impossible := impossible.elim
  streamed _ impossible := impossible.elim
  used _ _ _ impossible _ := impossible
  closed _ _ impossible := impossible

/-- The link is open, and its socket is held. -/
def Radio.Link.Has (held : Descriptor → Host → Prop) (link : Radio.Link) (host : Host) : Prop :=
  ∃ on, link.descriptor = some on ∧ held on host

open Act

private theorem awaitName_leads {on : Descriptor} {holds : Host → Prop}
    (reads : ∀ host, holds host → holds (Host.read on Radio.Adapter.packetRoom host).2)
    (peer : Radio.Address) (patience : Nat) :
    (Radio.Adapter.awaitName on peer patience).Leads holds (fun _ => holds) holds := by
  induction patience with
  | zero => exact leads_known (.error _)
  | succ patience ih =>
    refine (Leads.of_state reads).attempt.bind fun outcome => ?_
    cases outcome with
    | ok packet =>
      dsimp only
      cases Radio.Adapter.verdict? peer packet with
      | some verdict => exact leads_known verdict
      | none => exact ih
    | error e =>
      dsimp only
      split
      · exact ih
      · exact leads_known (.error _)
      · exact leads_known (.error _)

/-- A name request is one write, and then nothing but reads. -/
theorem remoteName_leads {adapter : Radio.Adapter} {peer : Radio.Address}
    {before holds : Host → Prop}
    (writes : ∀ host, before host →
      holds (Host.write adapter.socket (Radio.Adapter.nameRequest peer) host).2)
    (reads : ∀ host, holds host →
      holds (Host.read adapter.socket Radio.Adapter.packetRoom host).2) :
    (adapter.remoteName peer).Leads before (fun _ => holds) holds := by
  refine ((Leads.of_state writes).mapError _).bind fun sent => ?_
  refine Leads.ite (leads_known (.error _)) ?_
  -- How many packets are read at most depends on the host that the write left.
  intro host begun
  exact awaitName_leads reads peer _ host begun

namespace Scanning

variable {free : Host → Prop} {held : Descriptor → Host → Prop} (discipline : Scanning free held)

include discipline

theorem works {α ε : Type} {on : Descriptor} {act : Act Host ε α}
    (works : ∀ host, Host.WorkedOn on host (act.run host).2) :
    act.Leads (held on) (fun _ => held on) (held on) :=
  .of_state fun host holds => discipline.used on host _ holds (works host)

/-- Calls that a signal cut short are calls as well, so making them again holds the socket too. -/
theorem persist {α : Type} {on : Descriptor} {act : Act Host Errno α}
    (works : ∀ host, Host.WorkedOn on host (act.run host).2) (patience : Nat) :
    (Host.persist act patience).Leads (held on) (fun _ => held on) (held on) := by
  -- By induction on the patience: the call is the last one, or a signal cut it short and it is made
  -- again.
  induction patience with
  | zero => exact discipline.works works
  | succ patience ih =>
    intro host holds
    have once := discipline.works works host holds
    simp only [Act.run, Host.persist] at once ⊢
    cases ended : act host with
    | mk outcome after =>
      rw [ended] at once
      cases outcome with
      | ok a => exact once
      | error e =>
        by_cases interrupted : e.kind = .interrupted
        · simp only [if_pos interrupted]
          exact ih after once
        · simp only [if_neg interrupted]
          exact once

private theorem firstUp : Radio.Adapter.firstUp.Leads free (fun _ => free) free := by
  refine (discipline.opened.mapError _).bind fun on => ?_
  refine Leads.afterwards ?_ (fun _ => discipline.closed on) (discipline.closed on)
  refine ((discipline.works fun _ => Host.workedOn_adapters _).mapError _).bind fun list => ?_
  dsimp only
  split
  · exact leads_known (.ok _)
  · exact leads_known (.error _)

private theorem openAdapter (config : Radio.Config) :
    (Radio.Adapter.open config).Leads free (fun adapter => held adapter.socket) free := by
  refine Leads.mapError _ (discipline.firstUp.bind fun device => ?_)
  refine (discipline.opened.mapError _).bind fun on => ?_
  refine Leads.onFailure ?_ (discipline.closed on)
  refine (Leads.mapError _ ?_).bind fun _ => leads_pure fun _ holds => holds
  refine (discipline.works fun _ => Host.workedOn_bind _).bind fun _ => ?_
  refine (discipline.works fun _ => Host.workedOn_setOption _ _ _).bind fun _ => ?_
  exact discipline.works fun _ => Host.workedOn_setOption _ _ _

private theorem scan (adapter : Radio.Adapter) :
    adapter.scan.Leads (held adapter.socket) (fun _ => held adapter.socket)
      (held adapter.socket) :=
  ((discipline.works fun _ => Host.workedOn_inquiry _).mapError _).bind fun _ =>
    leads_known (.ok _)

private theorem remoteName (adapter : Radio.Adapter) (peer : Radio.Address) :
    (adapter.remoteName peer).Leads (held adapter.socket) (fun _ => held adapter.socket)
      (held adapter.socket) :=
  remoteName_leads
    (fun host holds => discipline.used adapter.socket host _ holds (Host.workedOn_write _))
    (fun host holds => discipline.used adapter.socket host _ holds (Host.workedOn_read _))

private theorem firstNamed (adapter : Radio.Adapter) (name : String) (peers : List Radio.Address) :
    (adapter.scanner.firstNamed name peers).Leads (held adapter.socket)
      (fun _ => held adapter.socket) (held adapter.socket) := by
  induction peers with
  | nil => exact leads_known (.error _)
  | cons peer others ih =>
    refine (discipline.remoteName adapter peer).attempt.bind fun outcome => ?_
    -- An answer ends the search only if it is the name.
    cases outcome with
    | error e => exact ih
    | ok found => exact Leads.ite (leads_known (.ok peer)) ih

/-- Finding an address leaves no socket behind. -/
theorem locate (destination : String) (config : Radio.Config) :
    (Radio.Link.locate destination config).Leads free (fun _ => free) free := by
  refine (leads_known _).bind fun target => ?_
  cases target with
  | address a => exact leads_known (.ok a)
  | name n =>
    -- The adapter is given back whatever the search came to.
    refine (discipline.openAdapter config).bind fun adapter => ?_
    refine Leads.afterwards ?_ (fun _ => discipline.closed adapter.socket)
      (discipline.closed adapter.socket)
    exact ((discipline.scan adapter).mapError _).bind fun peers =>
      discipline.firstNamed adapter n peers

end Scanning

namespace Discipline

variable {free : Host → Prop} {held : Descriptor → Host → Prop} (discipline : Discipline free held)

include discipline

/-- A link holds its socket; where there is no link, no socket is left. -/
theorem connectAddress (address : Radio.Address) (config : Radio.Config) :
    (Radio.Link.connectAddress address config).Leads free (·.Has held) free := by
  refine (discipline.streamed.mapError _).bind fun on => ?_
  refine Leads.onFailure ?_ (discipline.closed on)
  -- Nothing depends on this option, so it may fail.
  refine (discipline.works fun _ => Host.workedOn_setOption _ _ _).attempt.bind fun _ => ?_
  refine ((discipline.works fun _ => Host.workedOn_connect _).mapError _).bind fun _ => ?_
  exact leads_pure fun _ holds => ⟨on, rfl, holds⟩

/-- A link holds its socket, and a connect that failed leaves none behind. -/
theorem connect (destination : String) (config : Radio.Config) :
    (Radio.Link.connect destination config).Leads free (·.Has held) free :=
  (discipline.locate destination config).bind fun address =>
    discipline.connectAddress address config

theorem keeps : Backend.Keeps fun state : Radio.Link × Host => state.1.Has held state.2 where
  read := by
    rintro room ⟨link, host⟩ has
    obtain ⟨on, named, holds⟩ : link.Has held host := has
    have leads : (Host.persist (Host.receive on room) host.script.receive.length).Leads (held on)
        (fun _ => held on) (held on) := discipline.persist (fun _ => Host.workedOn_receive room) _
    have reached := leads.state holds
    revert reached
    simp only [Act.run, Backend.read, named]
    rcases Host.persist (Host.receive on room) host.script.receive.length host with ⟨_ | _, after⟩
    · exact fun reached => ⟨on, named, reached⟩
    · exact fun reached => ⟨on, named, reached⟩
  write := by
    rintro data ⟨link, host⟩ has
    obtain ⟨on, named, holds⟩ : link.Has held host := has
    have leads : (Host.persist (Host.send on data) host.script.send.length).Leads (held on)
        (fun _ => held on) (held on) := discipline.persist (fun _ => Host.workedOn_send data) _
    have reached := leads.state holds
    revert reached
    simp only [Act.run, Backend.write, named]
    rcases Host.persist (Host.send on data) host.script.send.length host with ⟨_ | _, after⟩
    · exact fun reached => ⟨on, named, reached⟩
    · exact fun reached => ⟨on, named, reached⟩

/-- Closing gives the socket back, also where the close is refused. -/
theorem close {link : Radio.Link} {host : Host} (has : link.Has held host) :
    (Backend.close (link, host) : _ × Radio.Link × Host).2.1.descriptor = none ∧
      free (Backend.close (link, host) : _ × Radio.Link × Host).2.2 := by
  obtain ⟨on, named, holds⟩ := has
  have freed := discipline.closed on host holds
  revert freed
  simp only [Host.dropSocket, Backend.close, named]
  rcases Host.close on host with ⟨_ | _, after⟩
  · exact fun freed => ⟨rfl, freed⟩
  · exact fun freed => ⟨rfl, freed⟩

end Discipline
end BrickControl
