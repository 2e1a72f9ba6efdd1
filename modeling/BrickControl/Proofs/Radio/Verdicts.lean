import BrickControl.Proofs.Text.Lossy
import BrickControl.Radio.Adapter

/-!
# What decides a name request

Of the answers to a read on an adapter, only some decide a request for a name: an error that is no
interruption, the news that the command was rejected, and the event that it is complete, if that is
about the peer in question. `Decides` says so byte by byte, and `decides?` finds out.
-/
namespace BrickControl

namespace Errno

theorem kind_listed {e : Errno} {kind : IoKind} (own : kind ≠ .uncategorized)
    (is : e.kind = kind) : (e.code, kind) ∈ kinds := by
  rw [Errno.kind] at is
  cases found : kinds.lookup e.code with
  | none =>
    rw [found] at is
    exact absurd is.symm own
  | some listed =>
    rw [found] at is
    cases is
    obtain ⟨before, behind, parts, _⟩ := List.lookup_eq_some_iff.mp found
    rw [parts]
    exact List.mem_append_right before List.mem_cons_self

private theorem kind_interrupted_iff (e : Errno) : e.kind = .interrupted ↔ e = interrupted := by
  have only : ∀ entry ∈ kinds, entry.2 = .interrupted → entry.1 = interrupted.code := by decide
  constructor
  · intro is
    exact congrArg Errno.mk (only _ (kind_listed (by decide) is) rfl)
  · rintro rfl
    rfl

private theorem kind_wouldBlock_iff (e : Errno) : e.kind = .wouldBlock ↔ e = tryAgain := by
  have only : ∀ entry ∈ kinds, entry.2 = .wouldBlock → entry.1 = tryAgain.code := by decide
  constructor
  · intro is
    exact congrArg Errno.mk (only _ (kind_listed (by decide) is) rfl)
  · rintro rfl
    rfl

end Errno

namespace Radio.Adapter

open Text.Utf8 (Lossy lossy_iff)

/-- The packet is an event with this code and these parameters. Its length byte counts as far as the
packet goes. -/
def IsEvent (packet : Bytes) (code : UInt8) (parameters : Bytes) : Prop :=
  ∃ length body, packet = 0x04 :: code :: length :: body ∧ parameters = body.take length.toNat

/-- The answer to a read decides a name request for the peer in this way. -/
inductive Decides (peer : Address) : Except Errno Bytes → Except IoError String → Prop where
  | silence : Decides peer (.error Errno.tryAgain)
      (.error (.described .timedOut "remote name request timed out"))
  | failure {e : Errno} (final : e ≠ Errno.interrupted ∧ e ≠ Errno.tryAgain) :
      Decides peer (.error e) (.error (.system e))
  | rejection {packet behind : Bytes} {status free : UInt8} (nonzero : status ≠ 0)
      (event : IsEvent packet 0x0F (status :: free :: 0x19 :: 0x04 :: behind)) :
      Decides peer (.ok packet) (.error (.described .other
        ("remote name request rejected (status " ++ Text.Hex.marked status ++ ")")))
  | refusal {packet behind : Bytes} {status : UInt8} (nonzero : status ≠ 0)
      (event : IsEvent packet 0x07 (status :: (peer.stored ++ behind))) :
      Decides peer (.ok packet) (.error (.described .other
        ("remote name request failed (status " ++ Text.Hex.marked status ++ ")")))
  | name {packet field : Bytes} {name : String}
      (event : IsEvent packet 0x07 (0 :: (peer.stored ++ field)))
      (text : Lossy ((field.take 248).takeWhile (· ≠ 0)) name.toList) :
      Decides peer (.ok packet) (.ok name)

/-- How an answer decides the request, if it does. -/
def decides? (peer : Address) : Except Errno Bytes → Option (Except IoError String)
  | .ok packet => verdict? peer packet
  | .error e =>
    match e.kind with
    | .interrupted => none
    | .wouldBlock => some (.error (.described .timedOut "remote name request timed out"))
    | _ => some (.error (.system e))

theorem event?_iff {packet parameters : Bytes} {code : UInt8} :
    event? packet = some (code, parameters) ↔ IsEvent packet code parameters := by
  constructor
  · intro found
    unfold event? at found
    split at found
    next code' length body =>
      cases found
      exact ⟨length, body, rfl, rfl⟩
    next => cases found
  · rintro ⟨length, body, rfl, rfl⟩
    rfl

private theorem value_nameCommand {low high : UInt8} :
    Bytes.value [low, high] = nameCommand ↔ low = 0x19 ∧ high = 0x04 := by
  have small := low.toNat_lt
  simp only [Bytes.value, nameCommand, ← UInt8.toNat_inj]
  show low.toNat + 256 * (high.toNat + 256 * 0) = 1049 ↔ low.toNat = 25 ∧ high.toNat = 4
  omega

theorem decides?_interrupted {peer : Address} {e : Errno} (again : e.kind = .interrupted) :
    decides? peer (.error e) = none := by
  simp only [decides?, again]

theorem decides?_silent {peer : Address} {e : Errno} (silent : e.kind = .wouldBlock) :
    decides? peer (.error e) =
      some (.error (.described .timedOut "remote name request timed out")) := by
  simp only [decides?, silent]

theorem decides?_failed {peer : Address} {e : Errno} (final : e.kind ≠ .interrupted)
    (loud : e.kind ≠ .wouldBlock) : decides? peer (.error e) = some (.error (.system e)) := by
  simp only [decides?]

private theorem decides?_error_iff {peer : Address} {e : Errno} {outcome : Except IoError String} :
    decides? peer (.error e) = some outcome ↔ Decides peer (.error e) outcome := by
  -- There are three kinds of errors to a request, and each of the first two has one number.
  by_cases again : e.kind = .interrupted
  · rw [decides?_interrupted again]
    cases (Errno.kind_interrupted_iff e).mp again
    refine ⟨nofun, fun decides => ?_⟩
    cases decides with
    | failure final => exact absurd rfl final.1
  · by_cases silent : e.kind = .wouldBlock
    · rw [decides?_silent silent]
      cases (Errno.kind_wouldBlock_iff e).mp silent
      constructor
      · rintro ⟨⟩
        exact .silence
      · intro decides
        cases decides with
        | silence => rfl
        | failure final => exact absurd rfl final.2
    · rw [decides?_failed again silent]
      constructor
      · rintro ⟨⟩
        exact .failure ⟨fun same => again ((Errno.kind_interrupted_iff e).mpr same),
          fun same => silent ((Errno.kind_wouldBlock_iff e).mpr same)⟩
      · intro decides
        cases decides with
        | silence => exact absurd rfl silent
        | failure => rfl

/-! ### Packets -/

/-- A packet is one event at most. -/
theorem IsEvent.unique {packet parameters parameters' : Bytes} {code code' : UInt8}
    (event : IsEvent packet code parameters) (event' : IsEvent packet code' parameters') :
    code = code' ∧ parameters = parameters' := by
  have same := (event?_iff.mpr event).symm.trans (event?_iff.mpr event')
  cases same
  exact ⟨rfl, rfl⟩

/-- What a packet is to a name request. -/
inductive Sorted (packet : Bytes) : Prop where
  | status {status free low high : UInt8} {behind : Bytes}
      (event : IsEvent packet commandStatus (status :: free :: low :: high :: behind))
  | complete {status : UInt8} {address field : Bytes} (six : address.length = 6)
      (event : IsEvent packet nameComplete (status :: (address ++ field)))
  | other {code : UInt8} {parameters : Bytes} (event : IsEvent packet code parameters)
      (few : code = commandStatus → parameters.length < 4)
      (fewer : code = nameComplete → parameters.length < 7)
  | foreign (no : event? packet = none)

/-- Every packet is one of these to a name request. -/
theorem sorted (packet : Bytes) : Sorted packet := by
  cases found : event? packet with
  | none => exact .foreign found
  | some both =>
    obtain ⟨code, parameters⟩ := both
    have event := event?_iff.mp found
    -- An event is told by its code, and by whether it has the parameters that the code asks for.
    by_cases started : code = commandStatus ∧ 4 ≤ parameters.length
    · obtain ⟨rfl, enough⟩ := started
      match parameters with
      | status :: free :: low :: high :: behind => exact .status event
    · by_cases ended : code = nameComplete ∧ 7 ≤ parameters.length
      · obtain ⟨rfl, enough⟩ := ended
        match parameters with
        | status :: a :: b :: c :: d :: e :: f :: field =>
          exact .complete (rfl : [a, b, c, d, e, f].length = 6) event
      · refine .other event (fun same => ?_) (fun same => ?_)
        · exact Nat.lt_of_not_le fun enough => started ⟨same, enough⟩
        · exact Nat.lt_of_not_le fun enough => ended ⟨same, enough⟩

section

variable {peer : Address} {packet : Bytes}

/-- The news of a command matters if it is about this command and tells of a failure. -/
theorem verdict?_status {status free low high : UInt8} {behind : Bytes}
    (event : IsEvent packet commandStatus (status :: free :: low :: high :: behind)) :
    verdict? peer packet =
      if Bytes.value [low, high] = nameCommand ∧ status ≠ 0 then
        some (.error (.described .other
          ("remote name request rejected (status " ++ Text.Hex.marked status ++ ")")))
      else none := by
  simp only [verdict?, event?_iff.mpr event, if_true]

/-- The end of a name request matters if it is about this peer. -/
theorem verdict?_complete {status : UInt8} {address field : Bytes} (six : address.length = 6)
    (event : IsEvent packet nameComplete (status :: (address ++ field))) :
    verdict? peer packet =
      if address ≠ peer.stored then none
      else if status ≠ 0 then
        some (.error (.described .other
          ("remote name request failed (status " ++ Text.Hex.marked status ++ ")")))
      else some (.ok (nameText field)) := by
  match address with
  | [a, b, c, d, e, f] =>
    have other : nameComplete ≠ commandStatus := by decide
    simp only [verdict?, event?_iff.mpr event, other, List.cons_append, List.nil_append, if_false,
      if_true]

/-- Events of other codes, and such that are too short for their code, do not matter. -/
theorem verdict?_other {code : UInt8} {parameters : Bytes} (event : IsEvent packet code parameters)
    (few : code = commandStatus → parameters.length < 4)
    (fewer : code = nameComplete → parameters.length < 7) : verdict? peer packet = none := by
  simp only [verdict?, event?_iff.mpr event]
  split
  next same =>
    have short := few same
    split
    next => simp at short; omega
    next => rfl
  next =>
    split
    next same =>
      have short := fewer same
      split
      next =>
        simp only [List.length_cons] at short
        omega
      next => rfl
    next => rfl

theorem verdict?_foreign (no : event? packet = none) : verdict? peer packet = none := by
  simp only [verdict?, no]

private theorem decides?_ok_iff {outcome : Except IoError String} :
    decides? peer (.ok packet) = some outcome ↔ Decides peer (.ok packet) outcome := by
  show verdict? peer packet = some outcome ↔ _
  constructor
  · intro found
    -- A verdict is found by the sort of the packet, and the other sorts have none.
    cases sorted packet with
    | status event =>
      rw [verdict?_status event] at found
      split at found
      next rejected =>
        cases found
        obtain ⟨rfl, rfl⟩ := value_nameCommand.mp rejected.1
        exact .rejection rejected.2 event
      next => cases found
    | complete six event =>
      rw [verdict?_complete six event] at found
      split at found
      next => cases found
      next own =>
        cases Decidable.not_not.mp own
        split at found
        next nonzero =>
          cases found
          exact .refusal nonzero event
        next zero =>
          cases found
          cases Decidable.not_not.mp zero
          exact .name event (lossy_iff.mpr rfl)
    | other event few fewer =>
      rw [verdict?_other event few fewer] at found
      cases found
    | foreign no =>
      rw [verdict?_foreign no] at found
      cases found
  · intro decides
    -- Conversely each of the three ways to decide is about one sort of packet.
    cases decides with
    | rejection nonzero event =>
      rw [verdict?_status event, if_pos ⟨value_nameCommand.mpr ⟨rfl, rfl⟩, nonzero⟩]
    | refusal nonzero event =>
      rw [verdict?_complete peer.length_stored event, if_neg (fun other => other rfl),
        if_pos nonzero]
    | name event text =>
      rw [verdict?_complete peer.length_stored event, if_neg (fun other => other rfl),
        if_neg (fun other => other rfl)]
      have same : _ = nameText _ := String.toList_inj.mp (lossy_iff.mp text)
      rw [same]

end

/-- Of each answer it is found out how it decides the request, and whether it does. -/
theorem decides?_iff {peer : Address} {answer : Except Errno Bytes}
    {outcome : Except IoError String} :
    decides? peer answer = some outcome ↔ Decides peer answer outcome := by
  cases answer with
  | error e => exact decides?_error_iff
  | ok packet => exact decides?_ok_iff

end Radio.Adapter
end BrickControl
