import BrickControl.Command

/-!
# Accepted arguments

What the check of a command says of its arguments, and the size of the requests that follow from
it: every request that is built fits the longest request of the protocol.
-/
namespace BrickControl

/-- Two refusals in a row are passed where neither reason holds. -/
theorem refusals_ok_iff {p q : Prop} [Decidable p] [Decidable q] {first second : CommandError} :
    (if p then .error first else if q then .error second else .ok () : Except CommandError Unit) =
      .ok () ↔ ¬p ∧ ¬q := by
  by_cases hp : p
  · simp [hp]
  · by_cases hq : q <;> simp [hp, hq]

/-- A file name passes if it has no zero byte and fits its field without the byte that ends it. -/
theorem checkFilename_ok_iff (name : String) :
    checkFilename name = .ok () ↔
      0 ∉ Text.Utf8.encode name ∧ (Text.Utf8.encode name).length ≤ Limits.filenameLength := by
  rw [checkFilename, refusals_ok_iff, List.contains_iff_mem, gt_iff_lt, Nat.not_lt]

namespace Command

/-- A message passes if its mailbox exists and has room for it. -/
theorem check_messageWrite_iff (inbox : UInt8) (data : Bytes) :
    check (.messageWrite inbox data) = .ok () ↔
      inbox ≤ Limits.lastInbox ∧ data.length ≤ Limits.messageLength := by
  rw [check, refusals_ok_iff, gt_iff_lt, gt_iff_lt, UInt8.not_lt, Nat.not_lt]

/-- Low-speed data passes if neither what is sent nor what is awaited is too long. -/
theorem check_lsWrite_iff (port : InputPort) (data : Bytes) (replyLength : UInt8) :
    check (.lsWrite port data replyLength) = .ok () ↔
      data.length ≤ Limits.lowSpeedLength ∧ replyLength.toNat ≤ Limits.lowSpeedLength := by
  rw [check, refusals_ok_iff, gt_iff_lt, gt_iff_lt, Nat.not_lt, Nat.not_lt]

theorem length_request (command : Command) :
    command.request.length = 2 + (command.fields.flatMap Field.bytes).length := by
  simp only [request, List.length_cons]
  omega

/-- The request of accepted arguments fits the longest request. -/
theorem length_request_le (command : Command) (accepted : command.check = .ok ()) :
    command.request.length ≤ Limits.requestLength := by
  have longest : Limits.filenameLength ≤ 59 ∧ Limits.messageLength ≤ 59 ∧
    Limits.lowSpeedLength ≤ 59 ∧ Limits.requestLength = 64 := by decide
  rw [length_request]
  -- Only names and data vary in length, and their checks bound them.
  cases command with
  | startProgram name =>
    obtain ⟨_, short⟩ := (checkFilename_ok_iff name).mp accepted
    simp only [fields, Field.bytes, List.flatMap_cons, List.flatMap_nil, List.length_append,
      List.length_cons, List.length_nil]
    omega
  | playSoundFile looped name =>
    obtain ⟨_, short⟩ := (checkFilename_ok_iff name).mp accepted
    simp only [fields, Field.bytes, List.flatMap_cons, List.flatMap_nil, List.length_append,
      List.length_cons, List.length_nil]
    omega
  | messageWrite inbox data =>
    obtain ⟨_, short⟩ := (check_messageWrite_iff inbox data).mp accepted
    simp only [fields, Field.bytes, List.flatMap_cons, List.flatMap_nil, List.length_append,
      List.length_cons, List.length_nil]
    omega
  | lsWrite port data replyLength =>
    obtain ⟨short, _⟩ := (check_lsWrite_iff port data replyLength).mp accepted
    simp only [fields, Field.bytes, List.flatMap_cons, List.flatMap_nil, List.length_append,
      List.length_cons, List.length_nil]
    omega
  | _ => simp [fields, Field.bytes, Bytes.ofUInt16, Bytes.ofUInt32, Limits.requestLength]

end Command
end BrickControl
