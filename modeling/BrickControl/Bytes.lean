/-!
# Bytes

Messages, buffers and wire fields are lists of bytes. `overlay` says what a transfer leaves in a
buffer: it replaces the front and keeps the rest, whatever the transfer claims. `littleEndian` and
`value` are inverse up to the width of the field.
-/
namespace BrickControl

abbrev Bytes := List UInt8

namespace Bytes

/-- What a buffer holds after `stored` was copied to its front. A buffer never grows. -/
def overlay (stored buffer : Bytes) : Bytes :=
  stored.take buffer.length ++ buffer.drop stored.length

@[simp] theorem length_overlay (stored buffer : Bytes) :
    (overlay stored buffer).length = buffer.length := by
  simp only [overlay, List.length_append, List.length_take, List.length_drop]
  omega

@[simp] theorem overlay_nil (buffer : Bytes) : overlay [] buffer = buffer := by
  simp [overlay]

/-- The front of a buffer holds what was stored there. -/
theorem take_overlay {stored buffer : Bytes} {n : Nat} (size : stored.length = n)
    (fits : n ≤ buffer.length) : (overlay stored buffer).take n = stored := by
  subst size
  rw [overlay, List.take_of_length_le fits, List.take_left]

/-- Past what was stored a buffer is what it was. -/
theorem drop_overlay {stored buffer : Bytes} {n : Nat} (size : stored.length = n)
    (fits : n ≤ buffer.length) : (overlay stored buffer).drop n = buffer.drop n := by
  subst size
  rw [overlay, List.take_of_length_le fits, List.drop_left]

/-- What is as long as the buffer replaces all of it. -/
theorem overlay_of_length_eq {stored buffer : Bytes} (same : stored.length = buffer.length) :
    overlay stored buffer = stored := by
  rw [overlay, ← same, List.take_length, same, List.drop_length, List.append_nil]

/-- What a buffer has no room for makes no difference to it. -/
theorem overlay_take (stored buffer : Bytes) :
    overlay (stored.take buffer.length) buffer = overlay stored buffer := by
  simp only [overlay, List.take_take, Nat.min_self, List.length_take]
  congr 1
  rcases Nat.le_total stored.length buffer.length with fits | long
  · rw [Nat.min_eq_right fits]
  · rw [Nat.min_eq_left long, List.drop_length, List.drop_of_length_le long]

/-- The low `width` bytes of a number, least significant first. -/
def littleEndian : Nat → Nat → Bytes
  | 0, _ => []
  | width + 1, n => UInt8.ofNat n :: littleEndian width (n / 256)

/-- The number whose bytes are given, least significant first. -/
def value : Bytes → Nat
  | [] => 0
  | b :: rest => b.toNat + 256 * value rest

@[simp] theorem length_littleEndian (width n : Nat) : (littleEndian width n).length = width := by
  induction width generalizing n with
  | zero => rfl
  | succ width ih => simp [littleEndian, ih]

theorem value_littleEndian (width n : Nat) :
    value (littleEndian width n) = n % Nat.pow 256 width := by
  induction width generalizing n with
  | zero => simp [littleEndian, value, Nat.mod_one]
  | succ width ih =>
    have byte : (UInt8.ofNat n).toNat = n % 256 := by simp
    have wider : Nat.pow 256 (width + 1) = 256 * Nat.pow 256 width := Nat.mul_comm _ _
    rw [littleEndian, value, ih, byte, wider, Nat.mod_mul]

theorem value_lt (bytes : Bytes) : value bytes < Nat.pow 256 bytes.length := by
  induction bytes with
  | nil => exact Nat.one_pos
  | cons b rest ih =>
    have small := b.toNat_lt
    have wider : Nat.pow 256 (b :: rest).length = 256 * Nat.pow 256 rest.length := Nat.mul_comm _ _
    rw [value, wider]
    omega

/-- No other bytes of the same width have the same value. -/
theorem littleEndian_value (bytes : Bytes) : littleEndian bytes.length (value bytes) = bytes := by
  induction bytes with
  | nil => rfl
  | cons b rest ih =>
    have small := b.toNat_lt
    have low : UInt8.ofNat (b.toNat + 256 * value rest) = b := by
      apply UInt8.toNat_inj.mp
      rw [UInt8.toNat_ofNat']
      omega
    have high : (b.toNat + 256 * value rest) / 256 = value rest := by omega
    rw [value, List.length_cons, littleEndian, low, high, ih]

/-- The two-byte field of a 16-bit word. -/
def ofUInt16 (word : UInt16) : Bytes := littleEndian 2 word.toNat

/-- The four-byte field of a 32-bit word. -/
def ofUInt32 (word : UInt32) : Bytes := littleEndian 4 word.toNat

end Bytes
end BrickControl
