import BrickControl.Backend.Rehearsal
import BrickControl.Proofs.Command.Limits
import BrickControl.Proofs.Session.Bounds
import BrickControl.Proofs.Session.Fulfilled
import BrickControl.Proofs.Text.Lossy

/-!
# Program names

The brick keeps the name of a program in a field that is filled up with zero bytes. A name that a
program can be started by leaves room for one of them; a name may also fill the field. Either comes
back as it is, and whatever else is in the field has its lossy reading up to the first zero byte.
-/
namespace BrickControl

open Text.Utf8

/-- The name field of a reply. -/
def nameField (name : String) : Bytes :=
  encode name ++ List.replicate (19 - (encode name).length) 0

private theorem takeWhile_nameField {name : String} (clean : Char.ofNat 0 ∉ name.toList) :
    (nameField name).takeWhile (· ≠ 0) = encode name := by
  have nonzero : ∀ b ∈ encode name, decide (b ≠ 0) = true := by
    intro b member
    -- A zero byte in the bytes of a name would come from the character of number zero.
    refine decide_eq_true ?_
    rintro rfl
    exact clean (zero_mem_encode.mp member)
  rw [nameField, List.takeWhile_append_of_pos nonzero]
  simp

private theorem not_mem_takeWhile_zero (field : Bytes) : 0 ∉ field.takeWhile (· ≠ 0) := by
  intro zero
  have nonzero := List.all_eq_true.mp List.all_takeWhile 0 zero
  cases nonzero

private theorem takeWhile_before_zero (front behind : Bytes) :
    (front ++ 0 :: behind).takeWhile (· ≠ 0) = front.takeWhile (· ≠ 0) := by
  induction front with
  | nil => rfl
  | cons b front ih => rw [List.cons_append, List.takeWhile_cons, List.takeWhile_cons, ih]

private theorem Command.conclude_programName {field : Bytes} (size : field.length = 19) :
    Command.getCurrentProgramName.conclude field =
      .ok (decodeLossy (field.takeWhile (· ≠ 0))) := by
  have whole : field.take programNameLength = field :=
    List.take_of_length_le (Nat.le_of_eq size)
  rw [conclude, decode_programName size, whole]

namespace Connection

variable {σ : Type} [Backend σ]

/-- A name by which a program can be started comes back from its field, and so does a name that
fills the field. Any field is read up to its first zero byte, and what is behind this byte does not
matter. -/
theorem program_names_survive :
    (∀ name, (Command.startProgram name).check = .ok () ↔
      Char.ofNat 0 ∉ name.toList ∧ (encode name).length ≤ 18) ∧
    (∀ name, Char.ofNat 0 ∉ name.toList → (encode name).length ≤ 19 →
      (nameField name).length = 19 ∧ ∀ start after : Connection σ,
        Fulfilled .getCurrentProgramName (nameField name) start after →
        perform .getCurrentProgramName start = (.ok name, after)) ∧
    (∀ field (start after : Connection σ), Fulfilled .getCurrentProgramName field start after →
      field.length = 19 ∧ ∃ name, perform .getCurrentProgramName start = (.ok name, after) ∧
        (∀ text, Lossy (field.takeWhile (· ≠ 0)) text ↔ text = name.toList) ∧
        Char.ofNat 0 ∉ name.toList) ∧
    ∀ front behind behind' (start after start' after' : Connection σ),
      Fulfilled .getCurrentProgramName (front ++ 0 :: behind) start after →
      Fulfilled .getCurrentProgramName (front ++ 0 :: behind') start' after' →
      (perform .getCurrentProgramName start).1 = (perform .getCurrentProgramName start').1 := by
  have reads {field : Bytes} {start after : Connection σ}
      (done : Fulfilled .getCurrentProgramName field start after) :
      perform .getCurrentProgramName start =
        (.ok (decodeLossy (field.takeWhile (· ≠ 0))), after) := by
    rw [perform_fulfilled done, Command.conclude_programName (done.length rfl)]
  refine ⟨?_, ?_, ?_, ?_⟩
  · intro name
    rw [← zero_mem_encode]
    exact checkFilename_ok_iff name
  · intro name clean short
    refine ⟨?_, ?_⟩
    · rw [nameField, List.length_append, List.length_replicate]
      omega
    · intro start after done
      rw [reads done, takeWhile_nameField clean, decodeLossy_encode]
  · intro field start after done
    refine ⟨done.length rfl, _, reads done, fun text => lossy_iff, fun zero => ?_⟩
    exact not_mem_takeWhile_zero field ((lossy_iff.mpr rfl).zero_mem zero)
  · intro front behind behind' start after start' after' done done'
    rw [reads done, reads done', takeWhile_before_zero, takeWhile_before_zero]

/-- A name with characters of up to four bytes fills its field, and a short name comes back from a
field with leftovers behind it. -/
theorem program_names_survive_multibyte :
    let answered (field : Bytes) : Connection Rehearsal :=
      .overMessages { supply := .packets [0x02 :: 0x11 :: 0 :: field] }
    let full := String.ofList ['é', '漢', '𝄞', '𝄞', 'r', 'x', 'e', '.', 'é']
    let leftovers : Bytes := 0x61 :: 0 :: List.replicate 17 0xFF
    (perform .getCurrentProgramName (answered (nameField full))).1 = .ok full ∧
    (perform .getCurrentProgramName (answered leftovers)).1 = .ok (String.ofList ['a']) := by
  intro answered full leftovers
  obtain ⟨_, survives, _, unread⟩ := program_names_survive (σ := Rehearsal)
  have fulfilled {field : Bytes} (size : field.length = 19) :
      ∃ after, Fulfilled .getCurrentProgramName field (answered field) after :=
    fulfilled_rehearsed rfl rfl (by rw [size])
  obtain ⟨size, reads⟩ := survives full (by decide) (by decide)
  obtain ⟨size', reads'⟩ := survives (String.ofList ['a']) (by decide) (by decide)
  obtain ⟨_, done⟩ := fulfilled size
  obtain ⟨_, padded⟩ := fulfilled size'
  obtain ⟨_, dirty⟩ := fulfilled (show leftovers.length = 19 from rfl)
  refine ⟨by rw [reads _ _ done], ?_⟩
  -- The two fields differ only behind the zero byte, and the clean one is read by the first part.
  have same := unread [0x61] (List.replicate 17 0xFF) (List.replicate 17 0) _ _ _ _ dirty padded
  exact same.trans (congrArg Prod.fst (reads' _ _ padded))

end Connection
end BrickControl
