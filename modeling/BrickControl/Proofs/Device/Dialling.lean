import BrickControl.Proofs.Device.Calls

/-!
# The calls of connecting

Which calls are made while a connection is opened, and where their arguments come from. Over the
radio a peer is searched for and connected to; over USB a device is found and claimed. A limit for
packets is the configured one, and no byte is moved to a brick or from it.
-/
namespace BrickControl

open Host (Added Since)

theorem Host.Since.weaken {sort sort' : Call → Prop} {start host : Host}
    (since : Since sort start host) (weaker : ∀ call, sort call → sort' call) :
    Since sort' start host := by
  obtain ⟨calls, made, all⟩ := since
  exact ⟨calls, made, fun call member => weaker call (all call member)⟩

/-! ### Acts that make calls of one sort -/

namespace Act

variable {ε ε' α β : Type} {sort : Call → Prop}

/-- Whatever comes of the act, all the calls that it makes are of this sort. -/
def Makes (sort : Call → Prop) (act : Act Host ε α) : Prop :=
  ∀ host, Since sort host (act.run host).2

theorem makes_call {act : Act Host ε α}
    (adds : ∀ host, ∃ call opened, Added host [call] opened (act.run host).2 ∧ sort call) :
    act.Makes sort := by
  intro host
  obtain ⟨call, opened, added, same⟩ := adds host
  exact (Since.refl sort host).add_one added same

theorem leads_trivial {σ : Type} (act : Act σ ε α) :
    act.Leads (fun _ => True) (fun _ _ => True) fun _ => True := by
  intro state _
  rcases act.run state with ⟨_ | _, _⟩
  · exact trivial
  · exact trivial

theorem makes_known (outcome : Except ε α) : (Act.ofExcept outcome).Makes sort := Since.refl sort

/-- Two acts one after the other make the calls of both. -/
theorem Makes.bind {act : Act Host ε α} {next : α → Act Host ε β} (first : act.Makes sort)
    (second : ∀ a, (next a).Makes sort) : (act >>= next).Makes sort := by
  intro host
  have since := first host
  cases ended : act.run host with
  | mk outcome between =>
    rw [ended] at since
    cases outcome with
    | error e =>
      rw [bind_run_error ended]
      exact since
    | ok a =>
      rw [bind_run_ok ended]
      -- The second act starts where the first one ended, so their calls are one row.
      exact since.trans (second a between)

theorem Makes.ite {c : Prop} [Decidable c] {yes no : Act Host ε α} (makes : yes.Makes sort)
    (makes' : no.Makes sort) : (if c then yes else no).Makes sort := by
  split
  · exact makes
  · exact makes'

theorem Makes.mapError (f : ε → ε') {act : Act Host ε α} (makes : act.Makes sort) :
    (act.mapError f).Makes sort := by
  intro host
  have since := makes host
  revert since
  simp only [Act.run, Act.mapError]
  rcases act host with ⟨_ | _, after⟩
  · exact id
  · exact id

theorem Makes.attempt {act : Act Host ε α} (makes : act.Makes sort) :
    (act.attempt : Act Host ε' _).Makes sort := makes

theorem Makes.afterwards {act : Act Host ε α} {cleanup : Host → Host} (makes : act.Makes sort)
    (cleans : ∀ host, Since sort host (cleanup host)) : (act.afterwards cleanup).Makes sort :=
  fun host => (makes host).trans (cleans _)

theorem Makes.onFailure {act : Act Host ε α} {cleanup : Host → Host} (makes : act.Makes sort)
    (cleans : ∀ host, Since sort host (cleanup host)) : (act.onFailure cleanup).Makes sort := by
  intro host
  have since := makes host
  revert since
  simp only [Act.run, Act.onFailure]
  rcases act host with ⟨_ | _, after⟩
  · exact fun since => since.trans (cleans after)
  · exact id

/-- However often a call is made again, it is the same call. -/
theorem Makes.persist {act : Act Host Errno α} (makes : act.Makes sort) (patience : Nat) :
    (Host.persist act patience).Makes sort := fun host =>
  Host.persist_keeps (I := Since sort host) (fun between since => since.trans (makes between))
    patience (Since.refl sort host)

end Act

open Act

/-! ### Connecting -/

namespace Radio

/-- The calls with which a peer is searched for and connected to. Names are awaited for as long as
the settings say. -/
def Dials (config : Config) : Call → Prop
  | .socket _ _ | .adapters _ _ _ | .bind _ _ _ | .inquiry _ _ _ | .write _ _ _ | .read _ _ _
  | .connect _ _ _ | .close _ _ => True
  | .setOption _ level name value _ =>
    level = 1 → name = 20 → value = Adapter.timeValue config.nameTimeout
  | _ => False

variable {config : Config}

theorem dropSocket_dials (on : Descriptor) (host : Host) :
    Since (Dials config) host (Host.dropSocket on host) := by
  obtain ⟨⟨result, added⟩, _⟩ := Host.dropSocket_added on host
  exact (Since.refl _ host).add_one added trivial

theorem socket_dials (kind : SocketKind) : (Host.socket kind).Makes (Dials config) := by
  refine makes_call fun host => ?_
  obtain ⟨result, after, ended, _, none | got⟩ := Host.socket_added kind host
  · obtain ⟨e, rfl, added⟩ := none
    simp only [Act.run, ended]
    exact ⟨_, _, added, trivial⟩
  · obtain ⟨rfl, added⟩ := got
    simp only [Act.run, ended]
    exact ⟨_, _, added, trivial⟩

theorem setOption_dials {on : Descriptor} {level name : Nat} {value : Bytes}
    (keeps : level = 1 → name = 20 → value = Adapter.timeValue config.nameTimeout) :
    (Host.setOption on level name value).Makes (Dials config) :=
  makes_call fun _ => ⟨.setOption on level name value _, 0, Host.added_of rfl rfl, keeps⟩

namespace Adapter

private theorem firstUp_dials : firstUp.Makes (Dials config) := by
  refine ((socket_dials .adapter).mapError _).bind fun on => ?_
  refine Makes.afterwards ?_ (dropSocket_dials on)
  have lists : (Host.adapters on maxAdapters).Makes (Dials config) :=
    makes_call fun _ => ⟨.adapters on maxAdapters _, 0, Host.added_of rfl rfl, trivial⟩
  refine (lists.mapError _).bind fun list => ?_
  dsimp only
  split
  · exact makes_known (.ok _)
  · exact makes_known (.error _)

/-- Of the options that are set one is the limit, and it is the configured one. -/
theorem open_dials : (Adapter.open config).Makes (Dials config) := by
  refine Makes.mapError _ (firstUp_dials.bind fun device => ?_)
  refine ((socket_dials .adapter).mapError _).bind fun on => ?_
  refine Makes.onFailure ?_ (dropSocket_dials on)
  refine (Makes.mapError _ ?_).bind fun _ => makes_known (.ok _)
  have binds (address : Bytes) : (Host.bind on address).Makes (Dials config) :=
    makes_call fun _ => ⟨.bind on address _, 0, Host.added_of rfl rfl, trivial⟩
  refine (binds _).bind fun _ => (setOption_dials ?_).bind fun _ => setOption_dials ?_
  · exact fun level => absurd level (by decide)
  · exact fun _ _ => rfl

private theorem scan_dials (adapter : Adapter) : adapter.scan.Makes (Dials config) := by
  have asks (on : Descriptor) (request : Bytes) : (Host.inquiry on request).Makes (Dials config) :=
    makes_call fun _ => ⟨.inquiry on request _, 0, Host.added_of rfl rfl, trivial⟩
  exact ((asks _ _).mapError _).bind fun _ => makes_known (.ok _)

private theorem awaitName_dials (on : Descriptor) (peer : Address) (patience : Nat) :
    (awaitName on peer patience).Makes (Dials config) := by
  induction patience with
  | zero => exact makes_known (.error _)
  | succ patience ih =>
    have reads : (Host.read on packetRoom).Makes (Dials config) :=
      makes_call fun _ => ⟨.read on packetRoom _, 0, Host.added_of rfl rfl, trivial⟩
    refine reads.attempt.bind fun outcome => ?_
    cases outcome with
    | ok packet =>
      dsimp only
      -- A packet that decides nothing leaves the wait where it was.
      cases verdict? peer packet with
      | some verdict => exact makes_known verdict
      | none => exact ih
    | error e =>
      dsimp only
      split
      · exact ih
      · exact makes_known (.error _)
      · exact makes_known (.error _)

private theorem remoteName_dials (adapter : Adapter) (peer : Address) :
    (adapter.remoteName peer).Makes (Dials config) := by
  have writes (on : Descriptor) (data : Bytes) : (Host.write on data).Makes (Dials config) :=
    makes_call fun _ => ⟨.write on data _, 0, Host.added_of rfl rfl, trivial⟩
  refine ((writes _ _).mapError _).bind fun sent => Makes.ite (makes_known (.error _)) ?_
  exact fun host => awaitName_dials adapter.socket peer _ host

private theorem firstNamed_dials (adapter : Adapter) (name : String) (peers : List Address) :
    (adapter.scanner.firstNamed name peers).Makes (Dials config) := by
  induction peers with
  | nil => exact makes_known (.error _)
  | cons peer others ih =>
    refine (remoteName_dials adapter peer).attempt.bind fun outcome => ?_
    -- A peer that gives no name is passed over.
    cases outcome with
    | error e => exact ih
    | ok found => exact Makes.ite (makes_known (.ok peer)) ih

end Adapter

/-- A search and the connect that follows it make no other calls, wherever they stop. -/
theorem Link.connect_dials (destination : String) :
    (Link.connect destination config).Makes (Dials config) := by
  refine Makes.bind ?_ fun address => ?_
  · refine (makes_known _).bind fun target => ?_
    cases target with
    | address a => exact makes_known (.ok a)
    | name n =>
      refine Adapter.open_dials.bind fun adapter => ?_
      refine Makes.afterwards ?_ (dropSocket_dials adapter.socket)
      exact ((Adapter.scan_dials adapter).mapError _).bind fun peers =>
        Adapter.firstNamed_dials adapter n peers
  · refine ((socket_dials .stream).mapError _).bind fun on => ?_
    refine Makes.onFailure ?_ (dropSocket_dials on)
    -- The option that is set here is another one.
    refine (setOption_dials fun _ name => absurd name (by decide)).attempt.bind fun _ => ?_
    have connects (peer : Bytes) : (Host.connect on peer).Makes (Dials config) :=
      makes_call fun _ => ⟨.connect on peer _, 0, Host.added_of rfl rfl, trivial⟩
    exact ((connects _).mapError _).bind fun _ => makes_known (.ok _)

end Radio

namespace Usb

/-- The calls with which a device is found and its interface claimed. -/
def Finds (vendor product : UInt16) (config : Config) : Call → Prop
  | .usbOpen vendor' product' _ => vendor' = vendor ∧ product' = product
  | .claim _ interface _ => interface = config.interface
  | .usbClose _ => True
  | _ => False

/-- However opening a USB device ends, its calls are those that find and claim it. -/
theorem Link.open_finds (vendor product : UInt16) (config : Config) :
    (Link.open vendor product config).Makes (Finds vendor product config) := by
  intro host
  have opened := Link.open_opened vendor product config host
  cases ended : (Link.open vendor product config).run host with
  | mk outcome after =>
    rw [ended] at opened
    cases opened with
    | missing added => exact (Since.refl _ host).add added (by simp [Finds])
    | refused _ added => exact (Since.refl _ host).add added (by simp [Finds])
    | claimed added => exact (Since.refl _ host).add added (by simp [Finds])

end Usb

end BrickControl
