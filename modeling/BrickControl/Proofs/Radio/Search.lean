import BrickControl.Proofs.Radio.Adapter

/-!
# The search for a name

A name is resolved on the first adapter that is up, among the records that an inquiry on it counts:
they are asked for their names in their order, up to the first that answers with exactly the name.
Only then is there a stream, to the address of that record.
-/
namespace BrickControl

namespace Host

private theorem setOption_made (on : Descriptor) (level name : Nat) (value : Bytes) (host : Host) :
    ∃ result after, setOption on level name value host = (result, after) ∧
      Added host [.setOption on level name value result] 0 after :=
  ⟨_, _, rfl, added_of rfl rfl⟩

private theorem connect_made (on : Descriptor) (address : Bytes) (host : Host) :
    ∃ result after, connect on address host = (result, after) ∧
      Added host [.connect on address result] 0 after :=
  ⟨_, _, rfl, added_of rfl rfl⟩

/-- No stream was opened since `start`. -/
def Streamless (start host : Host) : Prop :=
  Since (fun call => ∀ result, call ≠ .socket .stream result) start host

private theorem streamless_scanning (start : Host) :
    Scanning (Streamless start) fun _ => Streamless start where
  opened := socket_leads .adapter (fun _ _ _ since _ added => since.add_one added (by simp))
    fun _ _ since _ added => since.add_one added (by simp)
  used on before after since worked := by
    obtain ⟨call, added, _, works⟩ := worked.worked
    refine since.add_one added ?_
    rintro result rfl
    cases works
  closed on host since := by
    obtain ⟨⟨result, added⟩, _⟩ := dropSocket_added on host
    exact since.add_one added (by simp)

end Host

namespace Radio.Link

open Host (Added)

/-- A search on the adapter that was opened for it, and the peers whose records count. -/
structure Searched (config : Config) (host : Host) (adapter : Adapter) (found : InquiryAnswer)
    (peers : List Address) (scanned : Host) : Prop where
  made : ∃ ready, (Adapter.open config).run host = (.ok adapter, ready) ∧
    adapter.Prepared config host ready ∧
    Added ready [.inquiry adapter.socket adapter.inquiryRequest (.ok ())] 0 scanned
  answered : (Host.answer host.script.inquiry (.ok ⟨[], 0⟩)).1 = .ok found
  records : peers.map Address.stored =
    (List.range (min (found.count % 256) config.maxResponses.toNat)).map found.record

/-- A found peer is the record behind the ones that were skipped. -/
theorem Searched.record {config : Config} {host scanned : Host} {adapter : Adapter}
    {found : InquiryAnswer} {skipped others : List Address} {peer : Address}
    (searched : Searched config host adapter found (skipped ++ peer :: others) scanned) :
    peer.stored = found.record skipped.length := by
  have inside : skipped.length < min (found.count % 256) config.maxResponses.toNat := by
    have lengths := congrArg List.length searched.records
    simp only [List.length_map, List.length_append, List.length_cons, List.length_range] at lengths
    omega
  -- The peer and its record stand at the same place of the two lists.
  have same := congrArg (·[skipped.length]?) searched.records
  simp only [List.getElem?_map, List.getElem?_range inside,
    List.getElem?_append_right (Nat.le_refl _), Nat.sub_self, List.getElem?_cons_zero,
    Option.map_some] at same
  exact Option.some.inj same

/-- How the search for a name ends. -/
inductive Sought (config : Config) (host : Host) (name : String) :
    Except TransportError Address × Host → Prop
  /-- There is no adapter that is up, or it was not made ready. -/
  | unready {e : IoError} {after : Host}
      (failed : (Adapter.open config).run host = (.error (.discovery e), after))
      (unasked : Host.Unasked host after) :
      Sought config host name (.error (.discovery e), after)
  | unsearched {adapter : Adapter} {ready after : Host} {e : Errno}
      (opened : (Adapter.open config).run host = (.ok adapter, ready))
      (failed : (Host.answer host.script.inquiry (.ok ⟨[], 0⟩)).1 = .error e)
      (unasked : Host.Unasked host after) :
      Sought config host name (.error (.discovery (.system e)), after)
  /-- All peers were asked, and none of them answered with the name. -/
  | unknown {adapter : Adapter} {found : InquiryAnswer} {peers : List Address}
      {answers : List (Except IoError String)} {scanned after : Host}
      (searched : Searched config host adapter found peers scanned)
      (asked : adapter.Asked peers answers scanned after)
      (none : ∀ answer ∈ answers, answer ≠ .ok name) :
      Sought config host name (.error (.nameNotFound name), adapter.drop after)
  /-- The peers up to the first that answered with the name were asked. -/
  | found {adapter : Adapter} {found : InquiryAnswer} {skipped others : List Address}
      {peer : Address} {answers : List (Except IoError String)} {scanned after : Host}
      (searched : Searched config host adapter found (skipped ++ peer :: others) scanned)
      (asked : adapter.Asked (skipped ++ [peer]) (answers ++ [.ok name]) scanned after)
      (none : ∀ answer ∈ answers, answer ≠ .ok name)
      (record : peer.stored = found.record skipped.length) :
      Sought config host name (.ok peer, adapter.drop after)

/-- How connecting to an address ends: with one socket, and one connect if there is the socket. -/
inductive Streamed (address : Address) (config : Config) (before : Host) :
    Except TransportError Link × Host → Prop
  | refused {e : Errno} {after : Host} (added : Added before [.socket .stream (.error e)] 0 after) :
      Streamed address config before (.error (.connect address.text (.system e)), after)
  | unreached {on : Descriptor} {e : Errno} {reuse closing : Except Errno Unit} {after : Host}
      (added : Added before [.socket .stream (.ok on), .setOption on 1 2 [1, 0, 0, 0] reuse,
        .connect on (Adapter.family ++ address.stored ++ [config.channel]) (.error e),
        .close on closing] 1 after) :
      Streamed address config before (.error (.connect address.text (.system e)), after)
  | connected {on : Descriptor} {reuse : Except Errno Unit} {after : Host}
      (added : Added before [.socket .stream (.ok on), .setOption on 1 2 [1, 0, 0, 0] reuse,
        .connect on (Adapter.family ++ address.stored ++ [config.channel]) (.ok ())] 1 after) :
      Streamed address config before (.ok ⟨some on, address⟩, after)

/-- Connecting to an address takes one socket, which is closed again if the peer was not reached. -/
theorem connectAddress_streamed (address : Address) (config : Config) (host : Host) :
    Streamed address config host ((connectAddress address config).run host) := by
  obtain ⟨result, opened, socket, _, failed | got⟩ := Host.socket_added .stream host
  · obtain ⟨e, rfl, added⟩ := failed
    simp only [connectAddress, Act.run, bind, Act.andThen, Act.mapError, socket]
    exact .refused added
  · obtain ⟨rfl, added⟩ := got
    obtain ⟨reuse, ready, setting, set⟩ :=
      Host.setOption_made ⟨host.next⟩ 1 2 [1, 0, 0, 0] opened
    obtain ⟨result, tried, connecting, connected⟩ :=
      Host.connect_made ⟨host.next⟩ (peerAddress address config.channel) ready
    -- The result of the option is not looked at; only the connect decides.
    have whole := (added.trans set).trans connected
    cases result with
    | error e =>
      obtain ⟨⟨closing, closed⟩, _⟩ := Host.dropSocket_added ⟨host.next⟩ tried
      simp only [connectAddress, Act.run, bind, Act.andThen, Act.mapError, Act.attempt,
        Act.onFailure, socket, setting, connecting]
      exact .unreached (whole.trans closed)
    | ok =>
      simp only [connectAddress, Act.run, bind, Act.andThen, Act.mapError, Act.attempt,
        Act.onFailure, socket, setting, connecting]
      exact .connected whole

private theorem locate_named {destination : String} {config : Config} {host : Host}
    (named : Destination.parse destination = .ok (.name destination)) :
    (locate destination config).run host =
      (Adapter.open config >>= fun adapter =>
        Act.afterwards adapter.drop (adapter.scanner.resolve destination)).run host := by
  have parsed : (Act.ofExcept (Destination.parse destination)).run host =
      (.ok (.name destination), host) := by
    rw [named]
    rfl
  exact Act.bind_run_ok parsed _

/-- The search for a name ends in one of the ways of `Sought`. -/
private theorem locate_sought (config : Config) (host : Host) {destination : String}
    (named : Destination.parse destination = .ok (.name destination)) :
    Sought config host destination ((locate destination config).run host) := by
  rw [locate_named named]
  -- The search can end at each of its three stages: without an adapter, without an inquiry, and
  -- after the peers were asked.
  cases opened : (Adapter.open config).run host with
  | mk outcome ready =>
    cases outcome with
    | error e =>
      obtain ⟨⟨cause, rfl⟩, unasked⟩ := Adapter.open_failed opened
      rw [Act.bind_run_error opened]
      exact .unready opened unasked
    | ok adapter =>
      rw [Act.bind_run_ok opened]
      have prepared := (Adapter.open_leads config host).ok (Host.traced_nil ⟨rfl, rfl⟩) opened
      rcases adapter.scan_counted ready with ⟨e, after, failed, answered, added⟩ |
        ⟨found, peers, scanned, ended, answered, records, added⟩
      · have unsearched : (adapter.scanner.resolve destination).run ready =
            (.error (.discovery (.system e)), after) :=
          Act.bind_run_error (Act.mapError_run_error _ failed) _
        have unasked : Host.Unasked host after := prepared.unasked.add_one added (by simp)
        rw [Act.afterwards_run _ unsearched]
        exact .unsearched opened (prepared.inquiry ▸ answered) (unasked.close adapter.socket)
      · have onward : (adapter.scanner.resolve destination).run ready =
            (adapter.scanner.firstNamed destination peers).run scanned :=
          Act.bind_run_ok (Act.mapError_run_ok _ ended) _
        -- Opening the adapter left the answers to inquiries in store.
        have searched : Searched config host adapter found peers scanned := by
          rw [prepared.inquiry] at answered
          rw [prepared.settings.2] at records
          exact ⟨⟨ready, opened, prepared, added⟩, answered, records⟩
        rcases adapter.firstNamed_asked destination peers scanned with
          ⟨skipped, peer, others, answers, after, rfl, asked, none, found⟩ |
          ⟨answers, after, asked, none, unknown⟩
        · rw [Act.afterwards_run _ (onward.trans found)]
          exact .found searched asked none searched.record
        · rw [Act.afterwards_run _ (onward.trans unknown)]
          exact .unknown searched asked none

/-- Connecting to a name searches for it first, and ends with the error of the search or with the
one stream to the address that was found. No stream is opened before the search is over, and a name
that is not found opens none at all. -/
theorem connect_sought (host : Host) (config : Config) (destination : String)
    (nonempty : destination ≠ "") (named : Address.parse? destination = none) :
    ∃ outcome between, Sought config host destination (outcome, between) ∧
      Host.Streamless host between ∧
      match outcome with
      | .error e => (connect destination config).run host = (.error e, between)
      | .ok peer => Streamed peer config between ((connect destination config).run host) := by
  have parsed : Destination.parse destination = .ok (.name destination) := by
    have given : destination.isEmpty = false := by simpa using nonempty
    simp only [Destination.parse, given, named, Bool.false_eq_true, if_false]
  -- The search ends before there is a stream, and the stream depends on its outcome alone.
  have sought := locate_sought config host parsed
  have streamless := ((Host.streamless_scanning host).locate destination config).state
    (Host.Since.refl _ host)
  cases located : (locate destination config).run host with
  | mk outcome between =>
    rw [located] at sought streamless
    refine ⟨outcome, between, sought, streamless, ?_⟩
    cases outcome with
    | error e => exact Act.bind_run_error located _
    | ok peer =>
      have onward : (connect destination config).run host =
          (connectAddress peer config).run between := Act.bind_run_ok located _
      dsimp only
      rw [onward]
      exact connectAddress_streamed peer config between

/-- The second adapter is up. Of three peers the first answers with another name and the second
refuses; a fourth record is stored and does not count. -/
theorem connect_sought_third :
    let script : Script :=
      { adapters := [.ok ⟨[(0, 4), (1, 5)], 2⟩]
        inquiry := [.ok ⟨[[1, 0, 0, 0, 0, 9], [2, 0, 0, 0, 0, 9], [3, 0, 0, 0, 0, 9],
          [4, 0, 0, 0, 0, 9]], 3⟩]
        read := [.ok [4, 7, 255, 0, 1, 0, 0, 0, 0, 9, 110, 120, 116, 0],
          .ok [4, 7, 255, 4, 2, 0, 0, 0, 0, 9],
          .ok [4, 7, 255, 0, 3, 0, 0, 0, 0, 9, 78, 88, 84, 0]] }
    ("NXT" ≠ "" ∧ Address.parse? "NXT" = none) ∧
    ∃ peer between, peer.stored = [3, 0, 0, 0, 0, 9] ∧
      Sought {} (Host.ofScript script) "NXT" (.ok peer, between) ∧
      Host.Streamless (Host.ofScript script) between ∧
      Streamed peer {} between ((connect "NXT" {}).run (Host.ofScript script)) := by
  intro script
  have given : "NXT" ≠ "" := by decide
  have named : Address.parse? "NXT" = none := by decide
  -- The run is evaluated for the address alone, which tells this end of the search from the others.
  have reached : ((connect "NXT" {}).run (Host.ofScript script)).1.toOption.map
      (fun link => link.address.stored) = some [3, 0, 0, 0, 0, 9] := by decide +kernel
  obtain ⟨outcome, between, sought, streamless, ended⟩ :=
    connect_sought (Host.ofScript script) {} "NXT" given named
  cases outcome with
  | error e =>
    dsimp only at ended
    rw [ended] at reached
    cases reached
  | ok peer =>
    refine ⟨⟨given, named⟩, peer, between, ?_, sought, streamless, ended⟩
    dsimp only at ended
    generalize (connect "NXT" {}).run (Host.ofScript script) = whole at ended reached
    cases ended with
    | refused added => cases reached
    | unreached added => cases reached
    | connected added => exact Option.some.inj reached

end Radio.Link
end BrickControl
