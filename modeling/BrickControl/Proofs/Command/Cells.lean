import BrickControl.Proofs.Command.Decoding
import BrickControl.Proofs.Command.Layout

/-!
# Fields at offsets

A layout is written down as cells, each a field with the offset at which it stands in a packet. A
reader of a field finds, at any offset, a value whose bytes stand there. Cells that adjoin leave no
gap, so a packet in which they stand is made of their fields.
-/
namespace BrickControl

namespace Layout

/-- The two's complement of a number of 16 bits, low byte first. -/
def signedShort (n : Int) : Bytes := short (if n < 0 then n + 65536 else n).toNat

/-- The two's complement of a number of 32 bits, low byte first. -/
def signedLong (n : Int) : Bytes := long (if n < 0 then n + 4294967296 else n).toNat

/-- A signed word is laid out as its two's complement. -/
theorem toUInt16_eq (n : Int16) : Bytes.ofUInt16 n.toUInt16 = signedShort n.toInt := by
  have value : n.toInt = if 2 * n.toUInt16.toNat < 65536 then (n.toUInt16.toNat : Int)
      else n.toUInt16.toNat - 65536 := BitVec.toInt_eq_toNat_cond n.toBitVec
  have small := n.toUInt16.toNat_lt
  have back : (if n.toInt < 0 then n.toInt + 65536 else n.toInt).toNat = n.toUInt16.toNat := by
    -- The number is the unsigned one, or 65536 less where the highest bit is set.
    split at value <;> split <;> omega
  rw [signedShort, back, ofUInt16_eq]

theorem toUInt32_eq (n : Int32) : Bytes.ofUInt32 n.toUInt32 = signedLong n.toInt := by
  have value : n.toInt = if 2 * n.toUInt32.toNat < 4294967296 then (n.toUInt32.toNat : Int)
      else n.toUInt32.toNat - 4294967296 := BitVec.toInt_eq_toNat_cond n.toBitVec
  have small := n.toUInt32.toNat_lt
  have back : (if n.toInt < 0 then n.toInt + 4294967296 else n.toInt).toNat =
      n.toUInt32.toNat := by
    -- The number is the unsigned one, or 4294967296 less where the highest bit is set.
    split at value <;> split <;> omega
  rw [signedLong, back, ofUInt32_eq]

end Layout

/-! ### Fields at offsets -/

/-- A field and the offset at which it stands in a packet. -/
structure Cell where
  offset : Nat
  field : Bytes

/-- The bytes of the packet at the offset are those of the field. -/
def Cell.StandsIn (packet : Bytes) (cell : Cell) : Prop :=
  (packet.drop cell.offset).take cell.field.length = cell.field

/-- The cells stand one behind the other and leave no gap from the first offset to the last. -/
def Adjoining : Nat → List Cell → Nat → Prop
  | first, [], last => first = last
  | first, cell :: rest, last =>
    cell.offset = first ∧ Adjoining (first + cell.field.length) rest last

/-- The bytes of the fields, one behind the other. -/
def written (cells : List Cell) : Bytes := cells.flatMap Cell.field

section

variable {packet : Bytes} {cells : List Cell} {first last : Nat}

/-- A packet in which adjoining cells stand is made of their fields from the first offset to the
last. -/
theorem drop_of_stand (adjoining : Adjoining first cells last)
    (stand : ∀ cell ∈ cells, cell.StandsIn packet) :
    packet.drop first = written cells ++ packet.drop last := by
  induction cells generalizing first with
  | nil =>
    cases adjoining
    rfl
  | cons cell rest ih =>
    obtain ⟨rfl, adjoining⟩ := adjoining
    have here : (packet.drop cell.offset).take cell.field.length = cell.field :=
      stand cell List.mem_cons_self
    -- What is behind the first cell starts where the next one stands.
    have behind := ih adjoining fun other member => stand other (List.mem_cons_of_mem _ member)
    calc packet.drop cell.offset
        = (packet.drop cell.offset).take cell.field.length ++
            (packet.drop cell.offset).drop cell.field.length := (List.take_append_drop ..).symm
      _ = cell.field ++ packet.drop (cell.offset + cell.field.length) := by
            rw [here, List.drop_drop]
      _ = written (cell :: rest) ++ packet.drop last := by
            rw [behind, written, written, List.flatMap_cons, List.append_assoc]

/-- Conversely, a packet that is made of the fields has every cell at its offset. -/
theorem stand_of_drop {behind : Bytes} (adjoining : Adjoining first cells last)
    (same : packet.drop first = written cells ++ behind) :
    ∀ cell ∈ cells, cell.StandsIn packet := by
  induction cells generalizing first with
  | nil => simp
  | cons cell rest ih =>
    obtain ⟨rfl, adjoining⟩ := adjoining
    rw [written, List.flatMap_cons, List.append_assoc] at same
    have later : packet.drop (cell.offset + cell.field.length) = written rest ++ behind := by
      rw [← List.drop_drop, same, List.drop_left, written]
    intro other member
    -- The first cell stands at the front of what was written, the others behind it.
    rcases List.mem_cons.mp member with rfl | member
    · rw [Cell.StandsIn, same, List.take_left]
    · exact ih adjoining later other member

/-- Adjoining cells fill all that is between the first offset and the last. -/
theorem length_written (adjoining : Adjoining first cells last) :
    first + (written cells).length = last := by
  induction cells generalizing first with
  | nil => exact adjoining
  | cons cell rest ih =>
    obtain ⟨rfl, adjoining⟩ := adjoining
    -- The offset of the next cell counts in the field of this one.
    rw [written, List.flatMap_cons, List.length_append, ← Nat.add_assoc]
    exact ih adjoining

end

namespace FieldReader

variable {α β : Type} {packet : Bytes} {offset middle last width : Nat}

/-- From one offset of the packet to another the reader finds a value. -/
def Finds (packet : Bytes) (offset last : Nat) (reader : FieldReader α) (value : α) : Prop :=
  reader (packet.drop offset) = some (value, packet.drop last)

theorem finds_pure (value : α) : Finds packet offset offset (pure value) value := rfl

/-- The second reader starts at the offset at which the first one stops. -/
theorem Finds.bind {reader : FieldReader α} {next : α → FieldReader β} {a : α} {b : β}
    (here : Finds packet offset middle reader a) (later : Finds packet middle last (next a) b) :
    Finds packet offset last (reader >>= next) b := by
  show (reader (packet.drop offset)).bind (fun found => next found.1 found.2) =
    some (b, packet.drop last)
  rw [here]
  exact later

theorem Finds.map {reader : FieldReader α} {a : α} (here : Finds packet offset last reader a)
    (f : α → β) : Finds packet offset last (do return f (← reader)) (f a) :=
  here.bind (finds_pure (f a))

theorem Finds.provided {c : Prop} [Decidable c] {reader other : FieldReader α} {a : α} (yes : c)
    (here : Finds packet offset last reader a) :
    Finds packet offset last (if c then reader else other) a := by
  rw [if_pos yes]
  exact here

theorem Finds.otherwise {c : Prop} [Decidable c] {reader other : FieldReader α} {a : α} (no : ¬c)
    (here : Finds packet offset last other a) :
    Finds packet offset last (if c then reader else other) a := by
  rw [if_neg no]
  exact here

/-- What a reader finds is what it returns on the packet from its offset on. -/
theorem Finds.run {reader : FieldReader α} {a : α} (here : Finds packet offset last reader a) :
    reader.run' (packet.drop offset) = some a := by
  show (reader (packet.drop offset)).map Prod.fst = some a
  rw [here]
  rfl

/-! What a reader finds stands in the packet. -/

/-- Inside the packet a byte is found at any offset, and it is the one that stands there. -/
theorem finds_byte (inside : offset < packet.length) :
    ∃ b, Finds packet offset (offset + 1) byte b ∧ Cell.StandsIn packet ⟨offset, [b]⟩ := by
  have parts := List.drop_eq_getElem_cons inside
  refine ⟨packet[offset], ?_, ?_⟩
  · rw [Finds, parts]
    rfl
  · rw [Cell.StandsIn, parts]
    rfl

/-- A number is found wherever its bytes are inside the packet, whatever they are. -/
theorem finds_number (inside : offset + width ≤ packet.length) :
    ∃ n, Finds packet offset (offset + width) (number width) n ∧ n < Nat.pow 256 width ∧
      Cell.StandsIn packet ⟨offset, Bytes.littleEndian width n⟩ := by
  have enough : width ≤ (packet.drop offset).length := by
    rw [List.length_drop]
    omega
  have size : ((packet.drop offset).take width).length = width := by
    rw [List.length_take, Nat.min_eq_left enough]
  -- The number is the value of the bytes that stand there.
  refine ⟨Bytes.value ((packet.drop offset).take width), ?_, ?_, ?_⟩
  · rw [Finds, number, if_pos enough, List.drop_drop]
  · have small := Bytes.value_lt ((packet.drop offset).take width)
    rwa [size] at small
  · have same := Bytes.littleEndian_value ((packet.drop offset).take width)
    rw [size] at same
    rw [Cell.StandsIn, same, size]

theorem finds_signed (inside : offset < packet.length) :
    ∃ n : Int8, Finds packet offset (offset + 1) signed n ∧
      Cell.StandsIn packet ⟨offset, [Layout.signed n.toInt]⟩ := by
  obtain ⟨b, found, stands⟩ := finds_byte inside
  refine ⟨b.toInt8, found.map UInt8.toInt8, ?_⟩
  -- Made signed and back the byte is the one that was found.
  rwa [← Layout.toUInt8_eq, UInt8.toUInt8_toInt8]

/-- Any byte but zero is a flag that is set, so the byte is not given back by the flag alone. -/
theorem finds_flag (inside : offset < packet.length) :
    ∃ mark, Finds packet offset (offset + 1) flag (decide (mark ≠ 0)) ∧
      Cell.StandsIn packet ⟨offset, [mark]⟩ := by
  obtain ⟨mark, found, stands⟩ := finds_byte inside
  exact ⟨mark, found.map fun b => decide (b ≠ 0), stands⟩

theorem finds_word (inside : offset + 2 ≤ packet.length) :
    ∃ w : UInt16, Finds packet offset (offset + 2) word w ∧
      Cell.StandsIn packet ⟨offset, Layout.short w.toNat⟩ := by
  obtain ⟨n, found, small, stands⟩ := finds_number inside
  refine ⟨UInt16.ofNat n, found.map UInt16.ofNat, ?_⟩
  rwa [← Layout.ofUInt16_eq, Bytes.ofUInt16, UInt16.toNat_ofNat_of_lt' small]

theorem finds_long (inside : offset + 4 ≤ packet.length) :
    ∃ w : UInt32, Finds packet offset (offset + 4) long w ∧
      Cell.StandsIn packet ⟨offset, Layout.long w.toNat⟩ := by
  obtain ⟨n, found, small, stands⟩ := finds_number inside
  refine ⟨UInt32.ofNat n, found.map UInt32.ofNat, ?_⟩
  rwa [← Layout.ofUInt32_eq, Bytes.ofUInt32, UInt32.toNat_ofNat_of_lt' small]

theorem finds_signedWord (inside : offset + 2 ≤ packet.length) :
    ∃ n : Int16, Finds packet offset (offset + 2) signedWord n ∧
      Cell.StandsIn packet ⟨offset, Layout.signedShort n.toInt⟩ := by
  obtain ⟨w, found, stands⟩ := finds_word inside
  refine ⟨w.toInt16, found.map UInt16.toInt16, ?_⟩
  rwa [← Layout.toUInt16_eq, UInt16.toUInt16_toInt16, Layout.ofUInt16_eq]

theorem finds_signedLong (inside : offset + 4 ≤ packet.length) :
    ∃ n : Int32, Finds packet offset (offset + 4) signedLong n ∧
      Cell.StandsIn packet ⟨offset, Layout.signedLong n.toInt⟩ := by
  obtain ⟨w, found, stands⟩ := finds_long inside
  refine ⟨w.toInt32, found.map UInt32.toInt32, ?_⟩
  rwa [← Layout.toUInt32_eq, UInt32.toUInt32_toInt32, Layout.ofUInt32_eq]

/-! What is written is read back, as it is for the fields of a request. -/

theorem Yields.otherwise {c : Prop} [Decidable c] {reader other : FieldReader α} {bytes : Bytes}
    {a : α} (no : ¬c) (yields : Yields other bytes a) :
    Yields (if c then reader else other) bytes a := by
  rw [if_neg no]
  exact yields

/-- A signed byte that is laid out as its two's complement is read back. -/
theorem yields_laidSigned (n : Int8) : Yields signed [Layout.signed n.toInt] n := by
  rw [← Layout.toUInt8_eq]
  exact yields_signed n

theorem yields_laidWord (w : UInt16) : Yields word (Layout.short w.toNat) w := by
  rw [← Layout.ofUInt16_eq]
  exact yields_word w

theorem yields_laidLong (w : UInt32) : Yields long (Layout.long w.toNat) w := by
  rw [← Layout.ofUInt32_eq]
  exact yields_long w

/-- A flag is read from whatever byte stands for it. -/
theorem yields_mark (mark : UInt8) : Yields flag [mark] (decide (mark ≠ 0)) :=
  (yields_byte mark).map fun b => decide (b ≠ 0)

theorem yields_signedWord (n : Int16) : Yields signedWord (Layout.signedShort n.toInt) n := by
  rw [← Layout.toUInt16_eq]
  exact (yields_word n.toUInt16).map UInt16.toInt16

theorem yields_signedLong (n : Int32) : Yields signedLong (Layout.signedLong n.toInt) n := by
  rw [← Layout.toUInt32_eq]
  exact (yields_long n.toUInt32).map UInt32.toInt32

/-- A reader that yields a value on its bytes returns it where the packet ends with them. -/
theorem Yields.run {reader : FieldReader α} {bytes : Bytes} {a : α}
    (yields : Yields reader bytes a) : reader.run' bytes = some a := by
  have read := yields []
  rw [List.append_nil] at read
  show (reader bytes).map Prod.fst = some a
  rw [read]
  rfl

end FieldReader

end BrickControl
