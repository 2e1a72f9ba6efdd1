import BrickControl.Proofs.Radio.Verdicts
import BrickControl.Proofs.Session.Slices

/-!
# Events in a buffer that is used again

All packets of an adapter go to one buffer, in which bytes of earlier packets stay behind a shorter
one. Events are found in it and taken apart by index and by slice, where a slice that reaches too
far has no result. `awaitName?` does so packet by packet; every index is within the buffer, and what
is left from earlier packets makes no difference.
-/
namespace BrickControl

namespace Bytes

/-- The bytes from index `first` up to index `last`. -/
def slice? (data : Bytes) (first last : Nat) : Option Bytes :=
  if first ≤ last ∧ last ≤ data.length then some ((data.take last).drop first) else none

theorem slice_eq {data : Bytes} {first last : Nat} (ordered : first ≤ last)
    (within : last ≤ data.length) : data.slice? first last = some ((data.take last).drop first) :=
  if_pos ⟨ordered, within⟩

/-- As far as a packet goes it covers what was in the buffer. -/
theorem take_overlay_le {packet buffer : Bytes} {n : Nat} (stored : n ≤ packet.length)
    (fits : n ≤ buffer.length) : (overlay packet buffer).take n = packet.take n := by
  rw [overlay, List.take_append_of_le_length (by rw [List.length_take]; omega), List.take_take,
    Nat.min_eq_left fits]

end Bytes

namespace Radio.Adapter

/-- An event in the buffer: its code, the number of its parameters, and the buffer. -/
structure Found where
  code : UInt8
  size : Nat
  buffer : Bytes

/-- Reads into the buffer until an event is in it. A host with no more answers in store refuses. -/
def nextEvent? : Bytes → List (Except Errno Bytes) →
    Option (Except IoError Found × List (Except Errno Bytes))
  | _, [] => some (.error (.described .timedOut "remote name request timed out"), [])
  | buffer, .error e :: later =>
    match e.kind with
    | .interrupted => nextEvent? buffer later
    | .wouldBlock =>
      some (.error (.described .timedOut "remote name request timed out"), later)
    | _ => some (.error (.system e), later)
  | buffer, .ok packet :: later =>
    let held := Bytes.overlay packet buffer
    let size := min packet.length buffer.length
    if size < 3 then nextEvent? held later
    else do
      let marker ← held[0]?
      if marker ≠ 0x04 then nextEvent? held later
      else
        let code ← held[1]?
        let length ← held[2]?
        return (.ok ⟨code, min length.toNat (size - 3), held⟩, later)

/-- What the parameters of an event say about the request, if anything. -/
def decision? (peer : Address) (code : UInt8) (parameters : Bytes) :
    Option (Option (Except IoError String)) :=
  if code = commandStatus ∧ 4 ≤ parameters.length then do
    let low ← parameters[2]?
    let high ← parameters[3]?
    let status ← parameters[0]?
    if Bytes.value [low, high] = nameCommand ∧ status ≠ 0 then
      return some (.error (.described .other
        ("remote name request rejected (status " ++ Text.Hex.marked status ++ ")")))
    else return none
  else if code = nameComplete ∧ 7 ≤ parameters.length then do
    let address ← parameters.slice? 1 7
    if address ≠ peer.stored then return none
    else
      let status ← parameters[0]?
      if status ≠ 0 then
        return some (.error (.described .other
          ("remote name request failed (status " ++ Text.Hex.marked status ++ ")")))
      else
        let field ← parameters.slice? 7 (min parameters.length (7 + nameRoom))
        let name ← field.upTo? (field.findIdx (· = 0))
        return some (.ok (Text.Utf8.decodeLossy name))
  else return none

/-- Each event takes at least the packet that it came in, so waiting comes to an end. -/
theorem nextEvent?_shorter {buffer : Bytes} {answers later : List (Except Errno Bytes)}
    {found : Found} (next : nextEvent? buffer answers = some (.ok found, later)) :
    later.length < answers.length := by
  -- By induction on the answers; every branch that goes on has used up one of them.
  induction answers generalizing buffer with
  | nil => cases next
  | cons answer rest ih =>
    cases answer with
    | error e =>
      unfold nextEvent? at next
      split at next
      next => exact Nat.lt_succ_of_lt (ih next)
      next => cases next
      next => cases next
    | ok packet =>
      unfold nextEvent? at next
      dsimp only at next
      split at next
      next => exact Nat.lt_succ_of_lt (ih next)
      next =>
        rw [Option.bind_eq_bind, Option.bind_eq_some_iff] at next
        obtain ⟨marker, _, next⟩ := next
        split at next
        next => exact Nat.lt_succ_of_lt (ih next)
        next =>
          simp only [Option.bind_eq_some_iff] at next
          obtain ⟨code, _, length, _, last⟩ := next
          cases last
          exact Nat.lt_succ_self _

/-- Awaits the event that decides the request. -/
def awaitName? (peer : Address) (buffer : Bytes) (answers : List (Except Errno Bytes)) :
    Option (Except IoError String × List (Except Errno Bytes)) :=
  match _next : nextEvent? buffer answers with
  | none => none
  | some (.error e, later) => some (.error e, later)
  | some (.ok found, later) => do
    let parameters ← found.buffer.slice? 3 (3 + found.size)
    match ← decision? peer found.code parameters with
    | some outcome => return (outcome, later)
    | none => awaitName? peer found.buffer later
termination_by answers.length
decreasing_by exact nextEvent?_shorter _next

/-! ### One packet in the buffer -/

section

variable {peer : Address} {packet parameters buffer : Bytes} {code : UInt8}
  (later : List (Except Errno Bytes))

/-- What a packet has no room for is behind its parameters. -/
theorem event?_take (packet : Bytes) : event? (packet.take packetRoom) = event? packet := by
  match packet with
  | [] | [_] | [_, _] => rfl
  | marker :: code :: length :: body =>
    have small : length.toNat ≤ 255 := Nat.le_of_lt_succ length.toNat_lt
    show event? (marker :: code :: length :: body.take 255) = _
    by_cases event : marker = 0x04
    · subst event
      show some (code, (body.take 255).take length.toNat) = some (code, body.take length.toNat)
      rw [List.take_take, Nat.min_eq_left small]
    · simp [event?, event]

theorem getElem?_overlay {i : Nat} (stored : i < packet.length) (fits : i < buffer.length) :
    (Bytes.overlay packet buffer)[i]? = packet[i]? := by
  have front := congrArg (·[i]?) (Bytes.take_overlay_le (Nat.succ_le_of_lt stored)
    (Nat.succ_le_of_lt fits))
  simpa using front

/-- A packet that is an event is found in the buffer with its parameters, which are a slice of it.
-/
theorem nextEvent?_event (event : IsEvent packet code parameters)
    (room : buffer.length = packetRoom) : ∃ found : Found,
    nextEvent? buffer (.ok packet :: later) = some (.ok found, later) ∧ found.code = code ∧
      found.buffer.length = packetRoom ∧
      found.buffer.slice? 3 (3 + found.size) = some parameters := by
  obtain ⟨length, body, rfl, rfl⟩ := event
  have small : length.toNat ≤ 255 := Nat.le_of_lt_succ length.toNat_lt
  generalize whole : (0x04 :: code :: length :: body : Bytes) = packet
  have long : packet.length = 3 + body.length := by
    rw [← whole, List.length_cons, List.length_cons, List.length_cons]
    omega
  replace room : buffer.length = 258 := room
  -- Every index up to the end of the packet was written by this packet, not by an earlier one.
  have held (i : Nat) (header : i < 3) : (Bytes.overlay packet buffer)[i]? = packet[i]? :=
    getElem?_overlay (by omega) (by omega)
  refine ⟨⟨code, min length.toNat (min packet.length buffer.length - 3),
    Bytes.overlay packet buffer⟩, ?_, rfl, ?_, ?_⟩
  · rw [nextEvent?, if_neg (by omega), held 0 (by omega), held 1 (by omega), held 2 (by omega),
      ← whole]
    rfl
  · exact (Bytes.length_overlay packet buffer).trans room
  · dsimp only
    have within : 3 + min length.toNat (min packet.length buffer.length - 3) ≤ packet.length := by
      omega
    have fits : 3 + min length.toNat (min packet.length buffer.length - 3) ≤ buffer.length := by
      omega
    rw [Bytes.slice_eq (by omega) (by rw [Bytes.length_overlay]; exact fits),
      Bytes.take_overlay_le within fits, List.drop_take]
    -- The room for a packet is never what ends the parameters, for the length is a byte.
    have enough : 3 + min length.toNat (min packet.length buffer.length - 3) - 3 =
        min length.toNat body.length := by
      omega
    rw [enough, ← whole]
    exact congrArg some List.take_eq_take_min.symm

/-- A packet that is no event leaves its bytes in the buffer and is passed over. -/
theorem nextEvent?_foreign (no : event? packet = none) (room : buffer.length = packetRoom) :
    nextEvent? buffer (.ok packet :: later) = nextEvent? (Bytes.overlay packet buffer) later := by
  replace room : buffer.length = 258 := room
  rw [nextEvent?]
  split
  next => rfl
  next long =>
    -- A packet of three bytes or more is no event only if its first byte is another one.
    match packet, (show 3 ≤ packet.length by omega) with
    | marker :: code :: length :: body, _ =>
      have other : marker ≠ 0x04 := by
        rintro rfl
        cases no
      rw [getElem?_overlay (by simp) (by omega)]
      exact if_pos other

/-- Taken apart by index and slice, the parameters of an event say what the packet decides. -/
theorem decision?_eq (event : IsEvent packet code parameters) :
    decision? peer code parameters = some (decides? peer (.ok packet)) := by
  show _ = some (verdict? peer packet)
  cases sorted packet with
  | status event' =>
    obtain ⟨rfl, rfl⟩ := event.unique event'
    rw [verdict?_status event', decision?, if_pos ⟨rfl, Nat.le_add_left 4 _⟩]
    simp only [List.getElem?_cons_zero, List.getElem?_cons_succ, Option.bind_eq_bind,
      Option.bind_some]
    split <;> rfl
  | @complete status address field six event' =>
    obtain ⟨rfl, rfl⟩ := event.unique event'
    have length : (status :: (address ++ field)).length = 7 + field.length := by
      rw [List.length_cons, List.length_append]
      omega
    have first : Bytes.slice? (status :: (address ++ field)) 1 7 = some address := by
      rw [Bytes.slice_eq (by omega) (by omega), List.take_succ_cons, List.drop_succ_cons,
        List.drop_zero, ← six, List.take_left]
    -- The name has its room behind the status and the address, as far as there are parameters.
    have last : Bytes.slice? (status :: (address ++ field)) 7
        (min (status :: (address ++ field)).length (7 + nameRoom)) =
          some (field.take nameRoom) := by
      have behind : (status :: (address ++ field)).drop 7 = field := by
        rw [List.drop_succ_cons, ← six, List.drop_left]
      have size : min (7 + field.length) (7 + nameRoom) - 7 = min nameRoom field.length := by
        omega
      rw [Bytes.slice_eq (by omega) (Nat.min_le_left ..), List.drop_take, behind, length, size]
      exact congrArg some List.take_eq_take_min.symm
    have other : ¬(nameComplete = commandStatus ∧ 4 ≤ (status :: (address ++ field)).length) := by
      rintro ⟨⟨⟩, _⟩
    rw [verdict?_complete six event', decision?, if_neg other, if_pos ⟨rfl, by omega⟩, first]
    simp only [List.getElem?_cons_zero, Option.bind_eq_bind, Option.bind_some, last,
      Bytes.upTo_zero]
    split
    next => rfl
    next => split <;> rfl
  | other event' few fewer =>
    obtain ⟨rfl, rfl⟩ := event.unique event'
    have started : ¬(code = commandStatus ∧ 4 ≤ parameters.length) :=
      fun both => Nat.not_le_of_lt (few both.1) both.2
    have ended : ¬(code = nameComplete ∧ 7 ≤ parameters.length) :=
      fun both => Nat.not_le_of_lt (fewer both.1) both.2
    rw [verdict?_other event few fewer, decision?, if_neg started, if_neg ended]
    rfl
  | foreign no =>
    rw [event?_iff.mpr event] at no
    cases no

end

end Radio.Adapter
end BrickControl
