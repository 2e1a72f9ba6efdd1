import BrickControl.Proofs.Radio.Sockets

/-!
# A search on an adapter

What the calls of an adapter come to: it is the first that is up, an inquiry on it yields the
records that it counts, and peers are asked for their names in their order, one request each, up to
the first that answers with exactly the name.
-/
namespace BrickControl

/-- The bytes of a record as the system stored them; bytes that were not filled are zero. -/
def InquiryAnswer.record (found : InquiryAnswer) (i : Nat) : Bytes :=
  ((found.peers[i]?).getD [] ++ List.replicate 6 0).take 6

namespace Host

/-- No peer was asked for its name since `start`, for no adapter was given a command. -/
def Unasked (start host : Host) : Prop :=
  Since (fun call => ∀ on data result, call ≠ .write on data result) start host

theorem Unasked.more {start before after : Host} {call : Call} (unasked : Unasked start before)
    (made : after.made = call :: before.made) (next : after.next = before.next)
    (other : ∀ on data result, call ≠ .write on data result) : Unasked start after :=
  Since.add_one unasked (added_of made next : Added before [call] 0 after) other

/-- These calls were made since `start`, none of them a name request, and the answers in store are
as `kept` says. -/
structure Traced (kept : Script → Prop) (start : Host) (calls : List Call) (opened : Nat)
    (host : Host) : Prop where
  added : Added start calls opened host
  unasked : Unasked start host
  kept : kept host.script

variable {kept : Script → Prop} {start : Host} {calls : List Call} {opened : Nat}

theorem Traced.more {before after : Host} {call : Call}
    (traced : Traced kept start calls opened before)
    (made : after.made = call :: before.made) (next : after.next = before.next)
    (other : ∀ on data result, call ≠ .write on data result) (keeps : kept after.script) :
    Traced kept start (calls ++ [call]) opened after where
  added := traced.added.trans (added_of made next : Added before [call] 0 after)
  unasked := traced.unasked.more made next other
  kept := keeps

theorem traced_nil (keeps : kept start.script) : Traced kept start [] 0 start where
  added := ⟨(List.append_nil _).symm, rfl⟩
  unasked := .refl _ start
  kept := keeps

theorem socket_traced (kind : SocketKind)
    (free : ∀ (script : Script) rest, kept script → kept { script with socket := rest }) :
    (socket kind).Leads (Traced kept start calls opened)
      (fun on => Traced kept start (calls ++ [.socket kind (.ok on)]) (opened + 1))
      (Unasked start) := by
  intro host traced
  simp only [Act.run, socket]
  cases (answer host.script.socket (.ok ())).1 with
  -- A call that failed was no name request either.
  | error e => exact traced.unasked.more rfl rfl (by simp)
  | ok =>
    refine ⟨traced.added.trans (added_of rfl rfl), ?_, free _ _ traced.kept⟩
    exact traced.unasked.add_one (added_of rfl rfl) (by simp)

private theorem adapters_traced (on : Descriptor) (room : Nat)
    {queue : List (Except Errno AdapterList)}
    (free : ∀ (script : Script) rest, kept script → kept { script with adapters := rest }) :
    (adapters on room).Leads
      (Traced (fun script => script.adapters = queue ∧ kept script) start calls opened)
      (fun list after => (answer queue (.ok ⟨[(0, 1)], 1⟩)).1 = .ok list ∧
        Traced kept start (calls ++ [.adapters on room (.ok ())]) opened after)
      (Unasked start) := by
  intro host traced
  obtain ⟨added, unasked, rfl, keeps⟩ := traced
  have traced : Traced kept start calls opened host := ⟨added, unasked, keeps⟩
  simp only [Act.run, adapters]
  cases answered : (answer host.script.adapters (.ok ⟨[(0, 1)], 1⟩)).1 with
  | error e => exact unasked.more rfl rfl (by simp)
  | ok list => exact ⟨rfl, traced.more rfl rfl (by simp) (free _ _ keeps)⟩

private theorem bind_traced (on : Descriptor) (address : Bytes)
    (free : ∀ (script : Script) rest, kept script → kept { script with bind := rest }) :
    (bind on address).Leads (Traced kept start calls opened)
      (fun _ => Traced kept start (calls ++ [.bind on address (.ok ())]) opened)
      (Unasked start) := by
  intro host traced
  simp only [Act.run, bind]
  cases (answer host.script.bind (.ok ())).1 with
  | error e => exact traced.unasked.more rfl rfl (by simp)
  | ok => exact traced.more rfl rfl (by simp) (free _ _ traced.kept)

private theorem setOption_traced (on : Descriptor) (level name : Nat) (value : Bytes)
    (free : ∀ (script : Script) rest, kept script → kept { script with setOption := rest }) :
    (setOption on level name value).Leads (Traced kept start calls opened)
      (fun _ => Traced kept start (calls ++ [.setOption on level name value (.ok ())]) opened)
      (Unasked start) := by
  intro host traced
  simp only [Act.run, setOption]
  cases (answer host.script.setOption (.ok ())).1 with
  | error e => exact traced.unasked.more rfl rfl (by simp)
  | ok => exact traced.more rfl rfl (by simp) (free _ _ traced.kept)

private theorem inquiry_made (on : Descriptor) (request : Bytes) (host : Host) :
    ∃ after, inquiry on request host = ((answer host.script.inquiry (.ok ⟨[], 0⟩)).1, after) ∧
      Added host [.inquiry on request
        ((answer host.script.inquiry (.ok ⟨[], 0⟩)).1.map fun _ => ())] 0 after :=
  ⟨_, rfl, added_of rfl rfl⟩

theorem Unasked.close {start host : Host} (unasked : Unasked start host) (on : Descriptor) :
    Unasked start (dropSocket on host) := by
  obtain ⟨⟨result, added⟩, _⟩ := dropSocket_added on host
  exact unasked.add_one added (by simp)

private theorem read_made (on : Descriptor) (room : Nat) (host : Host) :
    ∃ got, Added host [.read on room got] 0 (read on room host).2 :=
  ⟨_, added_of rfl rfl⟩

end Host

namespace Radio.Adapter

open Act
open Host (Traced Added Unasked)

variable {host : Host}

/-- The first entry that is up, among the entries that count of what the system lists. -/
def FirstUp (host : Host) (device : UInt16) : Prop :=
  ∃ list down entry rest,
    (Host.answer host.script.adapters (.ok ⟨[(0, 1)], 1⟩)).1 = .ok list ∧
    list.entries.take (min (list.count % 65536) maxAdapters) = down ++ entry :: rest ∧
    (∀ other ∈ down, other.2 % 2 = 0) ∧ entry.2 % 2 = 1 ∧ device = UInt16.ofNat entry.1

/-- Looking up the first adapter that is up takes three calls, the last of which closes the socket
of the lookup, and leaves the inquiries in store alone. -/
private theorem firstUp_traced :
    firstUp.Leads
      (Traced (fun script => script.adapters = host.script.adapters ∧
        script.inquiry = host.script.inquiry) host [] 0)
      (fun device after => FirstUp host device ∧ ∃ lookup closing,
        Traced (fun script => script.inquiry = host.script.inquiry) host
          [.socket .adapter (.ok lookup), .adapters lookup maxAdapters (.ok ()),
            .close lookup closing] 1 after)
      (Unasked host) := by
  -- The socket of the lookup is closed whether or not an adapter is found.
  refine ((Host.socket_traced .adapter fun _ _ => id).mapError _).bind fun lookup => ?_
  refine Leads.afterwards (?_ : Leads _ _ (fun device after => FirstUp host device ∧
    Traced (fun script => script.inquiry = host.script.inquiry) host
      [.socket .adapter (.ok lookup), .adapters lookup maxAdapters (.ok ())] 1 after)
    (Unasked host)) ?_ (fun _ unasked => unasked.close lookup)
  · refine ((Host.adapters_traced lookup maxAdapters fun _ _ => id).mapError _).bind fun list => ?_
    rintro before ⟨answered, traced⟩
    dsimp only
    -- Entries that are counted and not up are passed over, and the first one that is up is taken.
    cases found : (list.entries.take (min (list.count % 65536) maxAdapters)).find?
        (fun entry => entry.2 % 2 = 1) with
    | none => exact traced.unasked
    | some entry =>
      obtain ⟨up, down, rest, parts, off⟩ := List.find?_eq_some_iff_append.mp found
      refine ⟨⟨list, down, entry, rest, answered, parts, fun other member => ?_, ?_, rfl⟩, traced⟩
      · have odd := off other member
        simp only [Bool.not_eq_true', decide_eq_false_iff_not] at odd
        omega
      · simpa using up
  · rintro device before ⟨first, traced⟩
    exact ⟨first, lookup, _, traced.more rfl rfl (by simp) traced.kept⟩

/-- An adapter that is ready for a search and for name requests, and the calls that made it so. -/
structure Prepared (config : Config) (host : Host) (adapter : Adapter) (ready : Host) : Prop where
  firstUp : FirstUp host adapter.device
  settings : adapter.inquiryLength = config.inquiryLength ∧
    adapter.maxResponses = config.maxResponses
  added : ∃ lookup closing, Added host
    [.socket .adapter (.ok lookup), .adapters lookup maxAdapters (.ok ()), .close lookup closing,
      .socket .adapter (.ok adapter.socket),
      .bind adapter.socket (family ++ Bytes.ofUInt16 adapter.device ++ [0, 0]) (.ok ()),
      .setOption adapter.socket 0 2 (eventFilter [commandStatus, nameComplete]) (.ok ()),
      .setOption adapter.socket 1 20 (timeValue config.nameTimeout) (.ok ())] 2 ready
  inquiry : ready.script.inquiry = host.script.inquiry

/-- Opening an adapter ends with one that is ready, or with no peer asked for its name. -/
theorem open_leads (config : Config) (host : Host) :
    (Adapter.open config).Leads
      (Traced (fun script => script.adapters = host.script.adapters ∧
        script.inquiry = host.script.inquiry) host [] 0)
      (Prepared config host) (Unasked host) := by
  refine Leads.mapError _ (firstUp_traced.bind fun device => ?_)
  -- What was found on the way is kept apart, for the calls from here on do not depend on it.
  rintro between ⟨first, lookup, closing, traced⟩
  refine (?_ : Leads (Traced (fun script => script.inquiry = host.script.inquiry) host
    [.socket .adapter (.ok lookup), .adapters lookup maxAdapters (.ok ()),
      .close lookup closing] 1) _ _ _) between traced
  refine ((Host.socket_traced .adapter fun _ _ => id).mapError _).bind fun socket => ?_
  refine Leads.onFailure (Leads.bind (Leads.mapError _
    (Leads.bind (Host.bind_traced socket _ fun _ _ => id) fun _ =>
      Leads.bind (Host.setOption_traced socket _ _ _ fun _ _ => id) fun _ =>
        Host.setOption_traced socket _ _ _ fun _ _ => id))
    fun _ => leads_pure fun ready traced => ?_) fun _ unasked => unasked.close socket
  exact ⟨first, ⟨rfl, rfl⟩, ⟨lookup, closing, traced.added⟩, traced.kept⟩

/-- An adapter that could not be opened is a failure of the discovery, and nobody was asked. -/
theorem open_failed {config : Config} {e : TransportError} {after : Host}
    (failed : (Adapter.open config).run host = (.error e, after)) :
    (∃ cause, e = .discovery cause) ∧ Unasked host after := by
  obtain ⟨cause, _, same⟩ := mapError_failed failed
  exact ⟨⟨cause, same⟩, (open_leads config host).error (Host.traced_nil ⟨rfl, rfl⟩) failed⟩

theorem Prepared.unasked {config : Config} {adapter : Adapter} {ready : Host}
    (prepared : Prepared config host adapter ready) : Unasked host ready := by
  obtain ⟨lookup, closing, added⟩ := prepared.added
  exact (Host.Since.refl _ host).add added (by simp)

/-- The records that were not filled count as empty ones. -/
theorem records_counted (peers : List Bytes) {room k : Nat} (fits : k ≤ room) :
    (peers.take room ++ List.replicate room []).take k =
      (List.range k).map fun i => (peers[i]?).getD [] := by
  refine List.ext_getElem ?_ fun i inside inside' => ?_
  · simp
    omega
  · have below : i < k := by simpa using inside'
    simp only [List.getElem_take, List.getElem_map, List.getElem_range, List.getElem_append,
      List.getElem_replicate, List.length_take]
    -- Within the room a record is either one that was stored, or one of the empty ones behind.
    by_cases filled : i < peers.length
    · rw [dif_pos (by omega), List.getElem?_eq_getElem filled, Option.getD_some]
    · rw [dif_neg (by omega), List.getElem?_eq_none (by omega), Option.getD_none]

/-- The address of a record is stored as the system stored it: reading it turns the bytes around,
and storing it turns them back. -/
@[simp] theorem stored_recordAddress (record : Bytes) :
    (recordAddress record).stored = (record ++ List.replicate 6 0).take 6 := by
  simp only [Address.stored, recordAddress, List.reverse_reverse]

/-- An inquiry fails with the error of the system, or the peers are the records that it counts, as
many as there was room for. -/
theorem scan_counted (adapter : Adapter) (ready : Host) :
    (∃ e after, adapter.scan.run ready = (.error (.system e), after) ∧
      (Host.answer ready.script.inquiry (.ok ⟨[], 0⟩)).1 = .error e ∧
      Added ready [.inquiry adapter.socket adapter.inquiryRequest (.error e)] 0 after) ∨
    (∃ found peers scanned, adapter.scan.run ready = (.ok peers, scanned) ∧
      (Host.answer ready.script.inquiry (.ok ⟨[], 0⟩)).1 = .ok found ∧
      peers.map Address.stored =
        (List.range (min (found.count % 256) adapter.maxResponses.toNat)).map found.record ∧
      Added ready [.inquiry adapter.socket adapter.inquiryRequest (.ok ())] 0 scanned) := by
  obtain ⟨after, asked, added⟩ := Host.inquiry_made adapter.socket adapter.inquiryRequest ready
  -- Whether there are peers hangs on this one answer of the system.
  cases answered : (Host.answer ready.script.inquiry (.ok ⟨[], 0⟩)).1 with
  | error e =>
    rw [answered] at asked added
    exact .inl ⟨e, after, Act.bind_run_error (mapError_run_error _ asked) _, rfl, added⟩
  | ok found =>
    rw [answered] at asked added
    refine .inr ⟨found, _, after, Act.bind_run_ok (mapError_run_ok _ asked) _, rfl, ?_, added⟩
    rw [records_counted found.peers (Nat.min_le_right _ _), List.map_map, List.map_map]
    refine List.map_congr_left fun i _ => ?_
    exact stored_recordAddress _

/-- One name request was sent, and after it nothing was done but to read packets. -/
def Requested (adapter : Adapter) (peer : Address) (before after : Host) : Prop :=
  ∃ result reads, Added before (.write adapter.socket (nameRequest peer) result :: reads) 0 after ∧
    ∀ call ∈ reads, ∃ got, call = .read adapter.socket packetRoom got

/-- Peers were asked for their names one after the other, and these were the answers. -/
inductive Asked (adapter : Adapter) :
    List Address → List (Except IoError String) → Host → Host → Prop
  | none {host : Host} : Asked adapter [] [] host host
  | next {peer : Address} {peers : List Address} {answer : Except IoError String}
      {answers : List (Except IoError String)} {before between after : Host}
      (answered : (adapter.remoteName peer).run before = (answer, between))
      (requested : Requested adapter peer before between)
      (others : Asked adapter peers answers between after) :
      Asked adapter (peer :: peers) (answer :: answers) before after

private theorem remoteName_requested (adapter : Adapter) (peer : Address) (host : Host) :
    Requested adapter peer host ((adapter.remoteName peer).run host).2 := by
  have leads : (adapter.remoteName peer).Leads (· = host) (fun _ => Requested adapter peer host)
      (Requested adapter peer host) := by
    refine remoteName_leads ?_ ?_
    · rintro _ rfl
      exact ⟨_, [], Host.added_of rfl rfl, nofun⟩
    · rintro before ⟨result, reads, added, reading⟩
      obtain ⟨got, added'⟩ := Host.read_made adapter.socket packetRoom before
      refine ⟨result, reads ++ [Call.read adapter.socket packetRoom got], added.trans added',
        fun call member => ?_⟩
      rcases List.mem_append.mp member with earlier | last
      · exact reading call earlier
      · exact ⟨got, List.mem_singleton.mp last⟩
  exact leads.state rfl

/-- The first peer that answers with the name is found, and no peer behind it is asked. -/
theorem firstNamed_asked (adapter : Adapter) (name : String) (peers : List Address) (host : Host) :
    (∃ skipped peer others answers after, peers = skipped ++ peer :: others ∧
      Asked adapter (skipped ++ [peer]) (answers ++ [.ok name]) host after ∧
      (∀ answer ∈ answers, answer ≠ .ok name) ∧
      (adapter.scanner.firstNamed name peers).run host = (.ok peer, after)) ∨
    (∃ answers after, Asked adapter peers answers host after ∧
      (∀ answer ∈ answers, answer ≠ .ok name) ∧
      (adapter.scanner.firstNamed name peers).run host = (.error (.nameNotFound name), after)) := by
  -- Each peer is asked on the host that the one before it left behind.
  induction peers generalizing host with
  | nil => exact .inr ⟨[], host, .none, nofun, rfl⟩
  | cons peer others ih =>
    have requested := remoteName_requested adapter peer host
    cases answered : (adapter.remoteName peer).run host with
    | mk answer between =>
      rw [answered] at requested
      -- A request that failed is an answer like any other: the search goes on.
      have told : ((adapter.scanner.remoteName peer).attempt : Act Host TransportError _).run host =
          (.ok answer, between) := attempt_run answered
      by_cases same : answer = .ok name
      · subst same
        refine .inl ⟨[], peer, others, [], between, rfl, .next answered requested .none, nofun, ?_⟩
        rw [PeerScanner.firstNamed, Act.bind_run_ok told]
        simp only [if_true]
        rfl
      · have onward : (adapter.scanner.firstNamed name (peer :: others)).run host =
            (adapter.scanner.firstNamed name others).run between := by
          rw [PeerScanner.firstNamed, Act.bind_run_ok told]
          cases answer with
          | error e => rfl
          | ok found =>
            have differ : found ≠ name := fun equal => same (congrArg Except.ok equal)
            simp only [if_neg differ]
        rw [onward]
        rcases ih between with ⟨skipped, found, rest, answers, after, parts, asked, none, ended⟩ |
          ⟨answers, after, asked, none, ended⟩
        · refine .inl ⟨peer :: skipped, found, rest, answer :: answers, after, ?_,
            .next answered requested asked, List.forall_mem_cons.mpr ⟨same, none⟩, ended⟩
          rw [parts, List.cons_append]
        · exact .inr ⟨answer :: answers, after, .next answered requested asked,
            List.forall_mem_cons.mpr ⟨same, none⟩, ended⟩

end Radio.Adapter

end BrickControl
