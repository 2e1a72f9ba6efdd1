import BrickControl.Reply

/-!
# Payloads taken apart by index

Data and names in an answer are copied slice by slice. A slice that reaches behind the end of a
payload or of a buffer is an error of the program and has no result here; so a result means that
every index was within bounds.

Answers have the length that their command expects, which is enough for every index. What the slices
come to is what `Transfer.fill` and `readName` say.
-/
namespace BrickControl

namespace Bytes

/-- The first `n` bytes. -/
def upTo? (data : Bytes) (n : Nat) : Option Bytes :=
  if n ≤ data.length then some (data.take n) else none

/-- The bytes from index `n` on. -/
def from? (data : Bytes) (n : Nat) : Option Bytes :=
  if n ≤ data.length then some (data.drop n) else none

/-- Copies `source` over the first `n` bytes, and there have to be as many of it. -/
def copyTo? (buffer : Bytes) (n : Nat) (source : Bytes) : Option Bytes :=
  if n ≤ buffer.length ∧ source.length = n then some (source ++ buffer.drop n) else none

end Bytes

/-- Copies data to the front of a buffer, or as much of it as the buffer holds. -/
def copyPrefix? (data buffer : Bytes) : Option (Filled CommandError) :=
  if buffer.length < data.length then do
    let available := buffer.length
    let front ← data.upTo? available
    let held ← buffer.copyTo? available front
    return ⟨.error (.bufferTooSmall data.length available), held⟩
  else do
    let held ← buffer.copyTo? data.length data
    return ⟨.ok data.length, held⟩

/-- The data of a low-speed transaction. The brick may report more of it than an answer carries. -/
def lowSpeedRead? (payload buffer : Bytes) : Option (Filled CommandError) := do
  let reported ← payload[0]?
  let data ← payload.from? 1
  let length := reported.toNat
  if data.length < length then
    let available := min buffer.length data.length
    let front ← data.upTo? available
    let held ← buffer.copyTo? available front
    return ⟨.error (.bufferTooSmall length available), held⟩
  else
    let front ← data.upTo? length
    copyPrefix? front buffer

/-- A mailbox message, for a buffer that is as long as the longest one. -/
def messageRead? (payload buffer : Bytes) : Option (Filled CommandError) := do
  let reported ← payload[1]?
  let data ← payload.from? 2
  let length := reported.toNat
  if data.length < length then
    let held ← buffer.copyTo? buffer.length data
    return ⟨.error (.bufferTooSmall length Limits.messageLength), held⟩
  else
    let front ← data.upTo? length
    let held ← buffer.copyTo? length front
    return ⟨.ok length, held⟩

/-- The name of a program, up to the first zero byte of its field. -/
def programName? (payload : Bytes) : Option String := do
  let field ← payload.upTo? Command.programNameLength
  -- Without a zero byte the index is the length of the field.
  let name ← field.upTo? (field.findIdx (· = 0))
  return Text.Utf8.decodeLossy name

namespace Bytes

variable {data buffer source : Bytes} {n : Nat}

theorem upTo_eq (within : n ≤ data.length) : data.upTo? n = some (data.take n) := if_pos within

theorem from_eq (within : n ≤ data.length) : data.from? n = some (data.drop n) := if_pos within

theorem copyTo_eq (within : n ≤ buffer.length) (same : source.length = n) :
    buffer.copyTo? n source = some (source ++ buffer.drop n) :=
  if_pos ⟨within, same⟩

/-- Without a zero byte the index is the length of the data, which is still within it. -/
theorem upTo_zero (data : Bytes) :
    data.upTo? (data.findIdx (· = 0)) = some (data.takeWhile (· ≠ 0)) := by
  rw [upTo_eq List.findIdx_le_length, List.takeWhile_eq_take_findIdx_not]
  simp

/-- An overlay copies what there is and what fits. -/
theorem overlay_min (data buffer : Bytes) :
    overlay data buffer = data.take (min buffer.length data.length) ++
      buffer.drop (min buffer.length data.length) := by
  rcases Nat.le_total data.length buffer.length with fits | short
  · rw [Nat.min_eq_right fits, overlay, List.take_of_length_le fits, List.take_length]
  · rw [Nat.min_eq_left short, overlay, List.drop_of_length_le short, List.drop_length]

end Bytes

open Bytes

private theorem copyPrefix_eq (data buffer : Bytes) :
    copyPrefix? data buffer = some
      ⟨if data.length ≤ buffer.length then .ok data.length
        else .error (.bufferTooSmall data.length buffer.length), overlay data buffer⟩ := by
  rw [copyPrefix?, overlay_min]
  -- The slices of either branch have the length that the copy asks for.
  by_cases short : buffer.length < data.length
  · have long : ¬data.length ≤ buffer.length := Nat.not_le.mpr short
    have size : (data.take buffer.length).length = buffer.length := by
      rw [List.length_take]
      omega
    rw [if_pos short, if_neg long, Nat.min_eq_left (Nat.le_of_lt short)]
    simp [upTo_eq (Nat.le_of_lt short), copyTo_eq (Nat.le_refl _) size]
  · have fits : data.length ≤ buffer.length := Nat.not_lt.mp short
    rw [if_neg short, if_pos fits, Nat.min_eq_right fits]
    simp [copyTo_eq fits rfl]

/-- Whatever length is reported, and whatever buffer there is for the data. -/
theorem lowSpeedRead_fills (reported : UInt8) (area buffer : Bytes) :
    lowSpeedRead? (reported :: area) buffer = some ((⟨reported, area⟩ : Transfer).fill buffer) := by
  have behind : Bytes.from? (reported :: area) 1 = some area := from_eq (by simp)
  simp only [lowSpeedRead?, List.getElem?_cons_zero, behind, Option.bind_eq_bind, Option.bind_some,
    Transfer.fill]
  by_cases beyond : area.length < reported.toNat
  · -- The brick reports more than the area holds: what the area holds is copied.
    have little : min buffer.length area.length ≤ area.length := Nat.min_le_right ..
    have size : (area.take (min buffer.length area.length)).length =
        min buffer.length area.length := by
      rw [List.length_take]
      omega
    have tooMuch : ¬reported.toNat ≤ min area.length buffer.length := by omega
    rw [if_pos beyond, if_neg tooMuch, upTo_eq little, Option.bind_some,
      copyTo_eq (Nat.min_le_left ..) size, List.take_of_length_le (Nat.le_of_lt beyond),
      overlay_min, Nat.min_comm area.length]
    rfl
  · have within : reported.toNat ≤ area.length := Nat.not_lt.mp beyond
    rw [if_neg beyond, upTo_eq within, Option.bind_some, copyPrefix_eq, List.length_take,
      Nat.min_eq_left within]
    by_cases fits : reported.toNat ≤ buffer.length
    · have enough : reported.toNat ≤ min area.length buffer.length := by omega
      rw [if_pos fits, if_pos enough]
    · have tooMuch : ¬reported.toNat ≤ min area.length buffer.length := by omega
      rw [if_neg fits, if_neg tooMuch, Nat.min_eq_right (by omega)]

/-- Whatever length is reported for a message; area and buffer have the same size. -/
theorem messageRead_fills (box reported : UInt8) {area buffer : Bytes}
    (size : area.length = Limits.messageLength) (room : buffer.length = Limits.messageLength) :
    messageRead? (box :: reported :: area) buffer =
      some ((⟨reported, area⟩ : Transfer).fill buffer) := by
  have behind : Bytes.from? (box :: reported :: area) 2 = some area := from_eq (by simp)
  have both : min area.length buffer.length = Limits.messageLength := by
    rw [size, room, Nat.min_self]
  simp only [messageRead?, List.getElem?_cons_succ, List.getElem?_cons_zero, behind,
    Option.bind_eq_bind, Option.bind_some, Transfer.fill, both, overlay_min]
  by_cases beyond : area.length < reported.toNat
  · have tooMuch : ¬reported.toNat ≤ Limits.messageLength := by omega
    have whole : area.take reported.toNat = area := List.take_of_length_le (Nat.le_of_lt beyond)
    rw [if_pos beyond, if_neg tooMuch, copyTo_eq (Nat.le_refl _) (size.trans room.symm), whole,
      room, size, Nat.min_self, ← size, List.take_length]
    rfl
  · have within : reported.toNat ≤ area.length := Nat.not_lt.mp beyond
    have length : (area.take reported.toNat).length = reported.toNat := by
      rw [List.length_take, Nat.min_eq_left within]
    rw [if_neg beyond, if_pos (by omega), upTo_eq within, Option.bind_some,
      copyTo_eq (by omega) length, length, Nat.min_eq_right (by omega), List.take_take,
      Nat.min_self]
    rfl

/-- The name in a field of full length is what stands in front of the first zero byte. -/
theorem programName_eq {payload : Bytes} (size : payload.length = Command.programNameLength) :
    programName? payload = some (Text.Utf8.decodeLossy
      ((payload.take Command.programNameLength).takeWhile (· ≠ 0))) := by
  have whole : payload.take Command.programNameLength = payload := by
    rw [← size, List.take_length]
  have field : payload.upTo? Command.programNameLength = some payload := by
    rw [upTo_eq (Nat.le_of_eq size.symm), whole]
  simp only [programName?, field, Option.bind_eq_bind, Option.bind_some, upTo_zero, whole]
  rfl

end BrickControl
