import BrickControl.Proofs.Text.Lossy
import BrickControl.Proofs.Text.Printable
import BrickControl.Report

/-!
# Previews of messages

A message is to be shown as its text if that can be printed, and in hexadecimal if not. The
preview looks for the character of number zero alone: bytes that are no text, or that hold a zero
byte in their middle, are shown in hexadecimal, and any other text is shown as it is. So a preview
is printable, and the one that is asked for, unless the text has a control character and none of
number zero. Such a text goes to the terminal with the control characters in it.
-/
namespace BrickControl.Report

open Text (Printable zero_not_mem_of_printable)
open Text.Utf8

/-- The bytes of a message without one zero byte at their end. -/
def body (data : Bytes) : Bytes := if data.getLast? = some 0 then data.dropLast else data

theorem body_ended (bytes : Bytes) : body (bytes ++ [0]) = bytes := by
  rw [body, List.getLast?_concat, if_pos rfl, List.dropLast_concat]

theorem body_open {bytes : Bytes} (whole : 0 ∉ bytes) : body bytes = bytes :=
  if_neg fun last => whole (List.mem_of_getLast? last)

theorem preview_eq (data : Bytes) : preview data =
    match decode? (body data) with
    | some text => if (body data).contains 0 then Text.Hex.spaced data else text
    | none => Text.Hex.spaced data := rfl

section

variable {data : Bytes} {text : String}

/-- A text without the character of number zero is shown as it is. -/
theorem preview_of_text (bytes : encode text = body data) (clean : Char.ofNat 0 ∉ text.toList) :
    preview data = text := by
  have read := decode?_eq_some_iff.mpr bytes
  have whole : ¬(body data).contains 0 := by
    rw [List.contains_iff_mem, ← bytes, zero_mem_encode]
    exact clean
  simp only [preview_eq, read, if_neg whole]

private theorem preview_of_zero (bytes : encode text = body data)
    (zero : Char.ofNat 0 ∈ text.toList) : preview data = Text.Hex.spaced data := by
  have read := decode?_eq_some_iff.mpr bytes
  have found : (body data).contains 0 := by
    rw [List.contains_iff_mem, ← bytes, zero_mem_encode]
    exact zero
  simp only [preview_eq, read, if_pos found]

private theorem preview_of_no_text (other : ∀ text, encode text ≠ body data) :
    preview data = Text.Hex.spaced data := by
  have unread : decode? (body data) = none :=
    Option.eq_none_iff_forall_ne_some.mpr fun text read => other text (decode?_eq_some_iff.mp read)
  simp only [preview_eq, unread]

end

/-- What is shown of a message is its text without the character of number zero, or hexadecimal. -/
theorem preview_cases (data : Bytes) :
    (encode (preview data) = body data ∧ Char.ofNat 0 ∉ (preview data).toList) ∨
      preview data = Text.Hex.spaced data := by
  -- There are three kinds of messages: no text, a text with a zero in it, and any other text.
  by_cases readable : ∃ text, encode text = body data
  · obtain ⟨text, bytes⟩ := readable
    by_cases zero : Char.ofNat 0 ∈ text.toList
    · exact .inr (preview_of_zero bytes zero)
    · rw [preview_of_text bytes zero]
      exact .inl ⟨bytes, zero⟩
  · exact .inr (preview_of_no_text (not_exists.mp readable))

/-- The character of number zero is never shown. -/
theorem zero_not_mem_preview (data : Bytes) : Char.ofNat 0 ∉ (preview data).toList := by
  rcases preview_cases data with ⟨_, clean⟩ | hexadecimal
  · exact clean
  · rw [hexadecimal]
    exact zero_not_mem_of_printable (Text.Hex.printable_spaced data)

/-! ### Printable previews -/

/-- What is to be shown of a message: its text if this is printable, or else all of its bytes in
hexadecimal. -/
inductive Shows (data : Bytes) : String → Prop where
  | text {text : String} (bytes : encode text = body data) (printable : Printable text) :
      Shows data text
  | hexadecimal (other : ∀ text, encode text = body data → ¬Printable text) :
      Shows data (Text.Hex.spaced data)

private theorem Shows.printable {data : Bytes} {shown : String} (shows : Shows data shown) :
    Printable shown := by
  cases shows with
  | text _ printable => exact printable
  | hexadecimal => exact Text.Hex.printable_spaced data

/-- A printable preview is the one that is asked for. -/
private theorem shows_of_printable {data : Bytes} (printable : Printable (preview data)) :
    Shows data (preview data) := by
  rcases preview_cases data with ⟨bytes, _⟩ | hexadecimal
  · exact .text bytes printable
  · by_cases readable : ∃ text, encode text = body data ∧ Printable text
    · -- A printable text has no zero character, so it would have been shown.
      obtain ⟨text, bytes, clear⟩ := readable
      rw [preview_of_text bytes (zero_not_mem_of_printable clear)]
      exact .text bytes clear
    · rw [hexadecimal]
      exact .hexadecimal fun text bytes clear => readable ⟨text, bytes, clear⟩

/-- A preview is the one that is asked for if it is printable. It is printable unless the bytes are
a text with a control character and without one of number zero, and this text is shown as it is. -/
theorem preview_printable_iff (data : Bytes) :
    (Shows data (preview data) ↔ Printable (preview data)) ∧
    (Printable (preview data) ↔ ∀ text, encode text = body data →
      Printable text ∨ Char.ofNat 0 ∈ text.toList) ∧
    (∀ text, encode text = body data → ¬Printable text → Char.ofNat 0 ∉ text.toList →
      preview data = text) := by
  refine ⟨⟨Shows.printable, shows_of_printable⟩, ⟨?_, ?_⟩, ?_⟩
  · intro printable text bytes
    by_cases zero : Char.ofNat 0 ∈ text.toList
    · exact .inr zero
    · rw [preview_of_text bytes zero] at printable
      exact .inl printable
  · intro clear
    rcases preview_cases data with ⟨bytes, clean⟩ | hexadecimal
    · exact (clear _ bytes).resolve_right clean
    · rw [hexadecimal]
      exact Text.Hex.printable_spaced data
  · intro text bytes _ clean
    exact preview_of_text bytes clean

/-- The sequence that clears a terminal is a text, and goes to the terminal as it is. -/
theorem preview_clears_terminal :
    let data : Bytes := [0x1B, 0x5B, 0x32, 0x4A]
    Shows data "1b 5b 32 4a" ∧ preview data = String.ofList (Char.ofNat 0x1B :: "[2J".toList) ∧
      ¬Printable (preview data) := by
  intro data
  have escaped : encode (String.ofList (Char.ofNat 0x1B :: "[2J".toList)) = body data := by decide
  have shown := preview_of_text escaped (by decide)
  -- The bytes are one text only, and this text begins with the escape character.
  refine ⟨.hexadecimal fun text bytes => ?_, shown, ?_⟩
  · have same := (preview_of_text (bytes.trans rfl) ?_).symm.trans shown
    · rw [same]
      decide
    · intro zero
      have absent : (0 : UInt8) ∉ body data := by decide
      exact absent (bytes ▸ zero_mem_encode.mpr zero)
  · rw [shown]
    decide

end BrickControl.Report
