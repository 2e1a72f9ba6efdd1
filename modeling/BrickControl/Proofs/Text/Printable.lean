import BrickControl.Text.Numerals

/-!
# Printable text

A text is printable if none of its characters is a control character. Hexadecimal text is printable,
whatever bytes it stands for.
-/
namespace BrickControl.Text

/-- The character is in the general category of control characters: those of numbers below 32, and
those from 127 to 159. -/
def Control (c : Char) : Prop := c.toNat < 0x20 ∨ 0x7F ≤ c.toNat ∧ c.toNat < 0xA0

instance (c : Char) : Decidable (Control c) := inferInstanceAs (Decidable (_ ∨ _))

/-- The text has no control character. -/
def Printable (text : String) : Prop := ∀ c ∈ text.toList, ¬Control c

instance (text : String) : Decidable (Printable text) :=
  List.decidableBAll (¬Control ·) text.toList

theorem zero_not_mem_of_printable {text : String} (printable : Printable text) :
    Char.ofNat 0 ∉ text.toList := fun zero => printable _ zero (by decide)

namespace Hex

private theorem toList_byte (b : UInt8) :
    (byte b).toList = [digit (b.toNat / 16), digit (b.toNat % 16)] := String.toList_ofList

/-- A character between bytes or of one byte is a space or a digit. -/
theorem mem_spaced {data : Bytes} {c : Char} (shown : c ∈ (spaced data).toList) :
    c = ' ' ∨ ∃ n < 16, c = digit n := by
  rw [spaced, String.toList_intercalate, List.map_map] at shown
  induction data with
  | nil => cases shown
  | cons b rest ih =>
    have of_byte (own : c ∈ (byte b).toList) : ∃ n < 16, c = digit n := by
      have small := b.toNat_lt
      simp only [toList_byte, List.mem_cons, List.not_mem_nil, or_false] at own
      rcases own with rfl | rfl
      · exact ⟨b.toNat / 16, by omega, rfl⟩
      · exact ⟨b.toNat % 16, by omega, rfl⟩
    -- There is a space behind each byte but the last one.
    cases rest with
    | nil => exact .inr (of_byte (by simpa using shown))
    | cons b' rest =>
      simp only [List.map_cons, List.intercalate_cons_cons, List.mem_append] at ih shown
      rcases shown with (own | space) | later
      · exact .inr (of_byte own)
      · exact .inl (List.mem_singleton.mp space)
      · exact ih later

private theorem printable_digit : ∀ n < 16, ¬Control (digit n) := by decide

/-- Bytes in hexadecimal are printable. -/
theorem printable_spaced (data : Bytes) : Printable (spaced data) := by
  intro c shown
  rcases mem_spaced shown with rfl | ⟨n, small, rfl⟩
  · decide
  · exact printable_digit n small

end Hex
end BrickControl.Text
