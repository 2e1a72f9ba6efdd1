import BrickControl.Proofs.Text.Lossy
import BrickControl.Radio.Address
import Mathlib.Data.List.Forall2

/-!
# The spelling of addresses

An address is spelled by six pairs of hexadecimal digits with single colons between them. `Spells`
says so of whole texts, and reading an address is its converse. `parseParts?` reads in another way:
it counts bytes, splits the text at its colons and reads each part as a number that could have a
sign. It accepts the same texts with the same addresses.
-/
namespace BrickControl

namespace Text.Hex

/-- The digits by their values. -/
def digits : List Char := "0123456789abcdef".toList

/-- The digits by their values, in capitals. -/
def capitals : List Char := "0123456789ABCDEF".toList

/-- The character is a digit of this value. -/
def Digit (c : Char) (value : Nat) : Prop := digits[value]? = some c ∨ capitals[value]? = some c

private theorem digits_getElem? : ∀ v < 16, digits[v]? = some (digit v) := by decide

theorem capitals_getElem? : ∀ v < 16, capitals[v]? = some (capital v) := by decide

/-- What holds of the digit in either case holds of every digit. -/
theorem Digit.holds {P : Char → Nat → Prop} {c : Char} {value : Nat} (digit : Digit c value)
    (table : ∀ v < 16, P (Hex.digit v) v ∧ P (capital v) v) : P c value := by
  rcases digit with found | found
  · have few : value < 16 := (List.getElem?_eq_some_iff.mp found).1
    cases found.symm.trans (digits_getElem? value few)
    exact (table value few).1
  · have few : value < 16 := (List.getElem?_eq_some_iff.mp found).1
    cases found.symm.trans (capitals_getElem? value few)
    exact (table value few).2

theorem Digit.small {c : Char} {value : Nat} (digit : Digit c value) : value < 16 :=
  digit.holds (P := fun _ value => value < 16) (by decide)

theorem Digit.ascii {c : Char} {value : Nat} (digit : Digit c value) : c.toNat < 0x80 :=
  digit.holds (P := fun c _ => c.toNat < 0x80) (by decide)

private theorem Digit.ne_colon {c : Char} {value : Nat} (digit : Digit c value) : c ≠ ':' :=
  digit.holds (P := fun c _ => c ≠ ':') (by decide)

private theorem Digit.toUpper {c : Char} {value : Nat} (digit : Digit c value) :
    c.toUpper = capital value :=
  digit.holds (P := fun c value => c.toUpper = capital value) (by decide)

theorem Digit.value? {c : Char} {value : Nat} (digit : Digit c value) : value? c = some value :=
  digit.holds (P := fun c value => Hex.value? c = some value) (by decide)

private theorem digit_capital {value : Nat} (small : value < 16) : Digit (capital value) value :=
  .inr (capitals_getElem? value small)

theorem digit_of_value? {c : Char} {value : Nat} (read : value? c = some value) :
    Digit c value := by
  have decimal : ∀ n < 58, 48 ≤ n → digits[n - 48]? = some (Char.ofNat n) := by decide
  have lower : ∀ n < 103, 97 ≤ n → digits[n - 87]? = some (Char.ofNat n) := by decide
  have upper : ∀ n < 71, 65 ≤ n → capitals[n - 55]? = some (Char.ofNat n) := by decide
  have self := Char.ofNat_toNat c
  simp only [Hex.value?] at read
  -- Each of the three ranges is a part of one of the tables.
  split at read
  next range =>
    cases read
    exact .inl ((decimal _ (Nat.lt_succ_of_le range.2) range.1).trans (congrArg some self))
  next =>
    split at read
    next range =>
      cases read
      exact .inl ((lower _ (Nat.lt_succ_of_le range.2) range.1).trans (congrArg some self))
    next =>
      split at read
      next range =>
        cases read
        exact .inr ((upper _ (Nat.lt_succ_of_le range.2) range.1).trans (congrArg some self))
      next => cases read

end Text.Hex

open Text.Hex (Digit digit_capital digit_of_value?)

namespace Radio.Address

/-! ### The grammar -/

/-- Two digits and the octet that they stand for. -/
inductive Pair : List Char → UInt8 → Prop where
  | digits {high low : Char} {h l : Nat} {octet : UInt8} (left : Digit high h) (right : Digit low l)
      (value : octet.toNat = 16 * h + l) : Pair [high, low] octet

/-- The text is pairs of digits, one for each octet, with single colons between them. -/
def Spells (text : String) (a : Address) : Prop :=
  ∃ pairs, List.Forall₂ Pair pairs a.octets ∧ text.toList = [':'].intercalate pairs

theorem ofNat_value {h l : Nat} {octet : UInt8} (value : octet.toNat = 16 * h + l) :
    UInt8.ofNat (16 * h + l) = octet := by
  rw [← value, UInt8.ofNat_toNat]

theorem pair_of_values {high low : Char} {h l : Nat} (left : Digit high h) (right : Digit low l) :
    Pair [high, low] (UInt8.ofNat (16 * h + l)) := by
  have small := left.small
  have small' := right.small
  exact .digits left right (UInt8.toNat_ofNat_of_lt' (by simp only [UInt8.size]; omega))

private theorem pairs?_spelled {text : List Char} {octets : Bytes}
    (read : pairs? text = some octets) :
    octets ≠ [] ∧ ∃ pairs, List.Forall₂ Pair pairs octets ∧ text = [':'].intercalate pairs := by
  -- Along `pairs?`: only a text that goes on behind a colon has more than one pair.
  fun_induction pairs? text generalizing octets with
  | case1 high low h l right left =>
    cases read
    exact ⟨by simp, [[high, low]], .cons (pair_of_values (digit_of_value? left)
      (digit_of_value? right)) .nil, rfl⟩
  | case2 => cases read
  | case3 high low rest h l others read' right left ih =>
    cases read
    obtain ⟨more, pairs, spelled, rfl⟩ := ih read'
    refine ⟨by simp, [high, low] :: pairs, .cons (pair_of_values (digit_of_value? left)
      (digit_of_value? right)) spelled, ?_⟩
    cases spelled with
    | nil => exact absurd rfl more
    | cons => rw [List.intercalate_cons_cons]; rfl
  | case4 => cases read
  | case5 => cases read

private theorem pairs?_of_spelled {pairs : List (List Char)} {octets : Bytes}
    (spelled : List.Forall₂ Pair pairs octets) (more : octets ≠ []) :
    pairs? ([':'].intercalate pairs) = some octets := by
  -- By induction on the pairs, as `pairs?` reads them: only the last one has no colon behind it.
  induction spelled with
  | nil => exact absurd rfl more
  | cons first rest ih =>
    obtain ⟨left, right, value⟩ := first
    have octet := ofNat_value value
    cases rest with
    | nil => simp only [List.intercalate_singleton, pairs?, left.value?, right.value?, octet]
    | cons next rest =>
      rw [List.intercalate_cons_cons]
      simp only [List.cons_append, List.nil_append, pairs?, left.value?, right.value?,
        ih (by simp), octet]

theorem octets_ne_nil (a : Address) : a.octets ≠ [] := by
  intro none
  have six := a.length_eq
  rw [none] at six
  cases six

@[simp] theorem ofOctets?_octets (a : Address) : ofOctets? a.octets = some a :=
  dif_pos a.length_eq

theorem ofOctets?_eq_some {octets : Bytes} {a : Address} (made : ofOctets? octets = some a) :
    a.octets = octets := by
  unfold ofOctets? at made
  split at made
  · cases made
    rfl
  · cases made

/-- An address is read from a text exactly if the text spells it. -/
theorem parse?_iff {text : String} {a : Address} : parse? text = some a ↔ Spells text a := by
  constructor
  · intro read
    unfold parse? at read
    split at read
    next octets found =>
      obtain rfl := ofOctets?_eq_some read
      exact (pairs?_spelled found).2
    next => cases read
  · rintro ⟨pairs, spelled, same⟩
    rw [parse?, same, pairs?_of_spelled spelled a.octets_ne_nil]
    exact ofOctets?_octets a

/-! ### The text of an address -/

private theorem pair_capitalByte (octet : UInt8) : Pair
    (Text.Hex.capitalByte octet).toList octet := by
  rw [Text.Hex.capitalByte, String.toList_ofList]
  have small := octet.toNat_lt
  exact .digits (digit_capital (by omega)) (digit_capital (by omega)) (by omega)

theorem toList_text (a : Address) :
    a.text.toList =
      [':'].intercalate (a.octets.map fun octet => (Text.Hex.capitalByte octet).toList) := by
  rw [text, String.toList_intercalate, List.map_map]
  rfl

theorem text_spells (a : Address) : Spells a.text a := by
  refine ⟨_, ?_, a.toList_text⟩
  rw [List.forall₂_map_left_iff, List.forall₂_same]
  exact fun octet _ => pair_capitalByte octet

private theorem Pair.toUpper {pair : List Char} {octet : UInt8} (digits : Pair pair octet) :
    pair.map Char.toUpper = (Text.Hex.capitalByte octet).toList := by
  obtain ⟨left, right, value⟩ := digits
  have small := right.small
  rw [Text.Hex.capitalByte, String.toList_ofList, value, Nat.mul_add_div (by decide),
    Nat.div_eq_of_lt small, Nat.mul_add_mod, Nat.mod_eq_of_lt small]
  simp only [List.map_cons, List.map_nil, left.toUpper, right.toUpper, Nat.add_zero]

private theorem toUpper_spelled {pairs : List (List Char)} {octets : Bytes}
    (spelled : List.Forall₂ Pair pairs octets) :
    ([':'].intercalate pairs).map Char.toUpper =
      [':'].intercalate (octets.map fun octet => (Text.Hex.capitalByte octet).toList) := by
  -- The colons are their own capitals, so the pairs can be taken one by one.
  induction spelled with
  | nil => rfl
  | cons first rest ih =>
    cases rest with
    | nil => simp only [List.intercalate_singleton, List.map_cons, List.map_nil, first.toUpper]
    | cons next rest =>
      rw [List.map_cons, List.map_cons, List.intercalate_cons_cons, List.intercalate_cons_cons,
        List.map_append, List.map_append, ih, first.toUpper]
      rfl

/-- The text of an address is any spelling of it, in capitals. -/
theorem Spells.toUpper {text : String} {a : Address} (spells : Spells text a) :
    a.text = text.toUpper := by
  obtain ⟨pairs, spelled, same⟩ := spells
  rw [← String.toList_inj, String.toUpper, String.toList_map, same, toUpper_spelled spelled,
    toList_text]

/-! ### Reading by parts -/

/-- The value of a byte as a digit. -/
def byteValue? (b : UInt8) : Option Nat := Text.Hex.value? (Char.ofNat b.toNat)

/-- Puts digits behind a number, as long as a byte has room for it. -/
def withDigits? (number : UInt8) : Bytes → Option UInt8
  | [] => some number
  | b :: rest =>
    match byteValue? b with
    | none => none
    | some value =>
      if 16 * number.toNat + value < 256 then
        withDigits? (UInt8.ofNat (16 * number.toNat + value)) rest
      else none

/-- The number that digits stand for; there can be a plus sign in front of them. -/
def number? : Bytes → Option UInt8
  | [] => none
  | b :: rest =>
    if b = 0x2B then if rest = [] then none else withDigits? 0 rest
    else withDigits? 0 (b :: rest)

/-- The octet of a part: two bytes, each of them a digit, read as a number. -/
def part? (part : List Char) : Option UInt8 :=
  let bytes := part.flatMap Text.Utf8.encodeChar
  if bytes.length ≠ 2 ∨ ¬bytes.all (fun b => (byteValue? b).isSome) then none else number? bytes

/-- The octets of as many parts, and the parts behind them. -/
def octetsOf? : Nat → List (List Char) → Option (Bytes × List (List Char))
  | 0, parts => some ([], parts)
  | _ + 1, [] => none
  | n + 1, part :: parts =>
    match part? part with
    | none => none
    | some octet =>
      match octetsOf? n parts with
      | none => none
      | some (octets, behind) => some (octet :: octets, behind)

/-- The address that a text of seventeen bytes spells with exactly six parts between colons. -/
def parseParts? (text : String) : Option Address :=
  if (Text.Utf8.encode text).length ≠ 17 then none
  else
    match octetsOf? 6 (text.toList.splitOn ':') with
    | some (octets, []) => ofOctets? octets
    | _ => none

private theorem ascii_of_encodeChar {c : Char}
    (ascii : ∀ b ∈ Text.Utf8.encodeChar c, b.toNat < 0x80) : c.toNat < 0x80 := by
  have range := Text.Utf8.toNat_range c
  unfold Text.Utf8.encodeChar at ascii
  generalize c.toNat = n at range ascii ⊢
  refine Nat.lt_of_not_le fun beyond => ?_
  -- The lead byte of a longer sequence is no ASCII byte.
  have lead {m : Nat} {rest : Bytes} (small : m < 256) (high : 0x80 ≤ m)
      (all : ∀ b ∈ UInt8.ofNat m :: rest, b.toNat < 0x80) : False := by
    have first := all _ List.mem_cons_self
    rw [Text.Utf8.toNat_byte small] at first
    omega
  rw [if_neg (by omega)] at ascii
  split at ascii
  next => exact lead (by omega) (by omega) ascii
  next =>
    split at ascii
    next => exact lead (by omega) (by omega) ascii
    next => exact lead (by omega) (by omega) ascii

theorem bytes_ascii {text : List Char} (ascii : ∀ c ∈ text, c.toNat < 0x80) :
    text.flatMap Text.Utf8.encodeChar = text.map fun c => UInt8.ofNat c.toNat := by
  rw [List.map_eq_flatMap]
  exact List.flatMap_congr fun c member => if_pos (ascii c member)

private theorem ascii_of_bytes {text : List Char}
    (ascii : ∀ b ∈ text.flatMap Text.Utf8.encodeChar, b.toNat < 0x80) :
    ∀ c ∈ text, c.toNat < 0x80 := fun c member =>
  ascii_of_encodeChar fun b byte => ascii b (List.mem_flatMap.mpr ⟨c, member, byte⟩)

theorem byteValue?_ofNat {c : Char} (ascii : c.toNat < 0x80) :
    byteValue? (UInt8.ofNat c.toNat) = Text.Hex.value? c := by
  rw [byteValue?, Text.Utf8.toNat_byte (by omega), Char.ofNat_toNat]

private theorem ascii_of_byteValue? {b : UInt8} {value : Nat} (digit : byteValue? b = some value) :
    b.toNat < 0x80 := by
  have ascii := (digit_of_value? digit).ascii
  have small := b.toNat_lt
  rwa [Text.Utf8.toNat_ofNat_of_valid (.inl (by omega))] at ascii

private theorem withDigits?_pair {high low : UInt8} {h l : Nat} (left : byteValue? high = some h)
    (right : byteValue? low = some l) :
    withDigits? 0 [high, low] = some (UInt8.ofNat (16 * h + l)) := by
  have small := (digit_of_value? left).small
  have small' := (digit_of_value? right).small
  have first : 16 * (0 : UInt8).toNat + h = h := by simp
  simp only [withDigits?, left, right, first, Text.Utf8.toNat_byte (show h < 256 by omega),
    if_pos (show h < 256 by omega), if_pos (show 16 * h + l < 256 by omega)]

/-- A pair of digits is read as a part with the same octet: no digit is a sign, and two of them stay
below 256. -/
theorem Pair.part? {part : List Char} {octet : UInt8} (pair : Pair part octet) :
    part? part = some octet := by
  obtain ⟨left, right, value⟩ := pair
  rename_i high low h l
  have ascii : ∀ c ∈ [high, low], c.toNat < 0x80 := by
    simp only [List.mem_cons, List.not_mem_nil, or_false]
    rintro c (rfl | rfl)
    · exact left.ascii
    · exact right.ascii
  have first := (byteValue?_ofNat left.ascii).trans left.value?
  have second := (byteValue?_ofNat right.ascii).trans right.value?
  -- The first digit is no sign.
  have unsigned : UInt8.ofNat high.toNat ≠ 0x2B := by
    intro sign
    rw [sign] at first
    cases first
  have digits : ¬(([high, low].map fun c => UInt8.ofNat c.toNat).length ≠ 2 ∨
      ¬([high, low].map fun c => UInt8.ofNat c.toNat).all (fun b => (byteValue? b).isSome)) := by
    simp [first, second]
  simp only [Address.part?, bytes_ascii ascii]
  rw [if_neg digits]
  simp only [List.map_cons, List.map_nil, number?, if_neg unsigned,
    withDigits?_pair first second, ofNat_value value]

/-- A part that is read is a pair of digits. It has two bytes, both of them digits, so both are
characters of their own and a sign is ruled out. -/
private theorem part?_pair {part : List Char} {octet : UInt8}
    (read : Address.part? part = some octet) : Pair part octet := by
  by_cases digits : (part.flatMap Text.Utf8.encodeChar).length = 2 ∧
      (part.flatMap Text.Utf8.encodeChar).all fun b => (byteValue? b).isSome
  · obtain ⟨two, digits⟩ := digits
    rw [List.all_eq_true] at digits
    have ascii : ∀ c ∈ part, c.toNat < 0x80 := ascii_of_bytes fun b member =>
      (Option.isSome_iff_exists.mp (digits b member)).elim fun _ digit => ascii_of_byteValue? digit
    rw [bytes_ascii ascii] at two digits
    obtain ⟨high, low, rfl⟩ := List.length_eq_two.mp (by simpa using two)
    have value (c : Char) (member : c ∈ [high, low]) : ∃ value, Digit c value := by
      have digit := digits _ (List.mem_map_of_mem member)
      rw [byteValue?_ofNat (ascii c member)] at digit
      obtain ⟨value, found⟩ := Option.isSome_iff_exists.mp digit
      exact ⟨value, digit_of_value? found⟩
    obtain ⟨h, left⟩ := value high (by simp)
    obtain ⟨l, right⟩ := value low (by simp)
    have pair := pair_of_values left right
    cases pair.part?.symm.trans read
    exact pair
  · rw [Address.part?, if_pos (by rwa [not_and_or] at digits)] at read
    cases read

/-- Parts are read as octets exactly if the first ones are pairs for them. -/
private theorem octetsOf?_iff {n : Nat} {parts behind : List (List Char)} {octets : Bytes} :
    octetsOf? n parts = some (octets, behind) ↔
      octets.length = n ∧ ∃ read, List.Forall₂ Pair read octets ∧ parts = read ++ behind := by
  -- By induction on the number of parts that are still to be read.
  induction n generalizing parts octets with
  | zero =>
    simp only [octetsOf?, Option.some.injEq, Prod.mk.injEq, List.length_eq_zero_iff]
    constructor
    · rintro ⟨rfl, rfl⟩
      exact ⟨rfl, [], .nil, rfl⟩
    · rintro ⟨rfl, read, none, rfl⟩
      cases none
      exact ⟨rfl, rfl⟩
  | succ n ih =>
    constructor
    · intro all
      cases parts with
      | nil => cases all
      | cons part parts =>
        simp only [octetsOf?] at all
        split at all
        next => cases all
        next octet first =>
          split at all
          next => cases all
          next others behind' later =>
            cases all
            obtain ⟨count, read, spelled, rfl⟩ := ih.mp later
            exact ⟨congrArg (· + 1) count, part :: read, .cons (part?_pair first) spelled, rfl⟩
    · rintro ⟨count, read, spelled, rfl⟩
      cases spelled with
      | nil => cases count
      | @cons part octet read others first rest =>
        have later : octetsOf? n (read ++ behind) = some (others, behind) :=
          ih.mpr ⟨Nat.succ.inj count, read, rest, rfl⟩
        simp only [List.cons_append, octetsOf?, first.part?, later]

private theorem length_spelled {pairs : List (List Char)} {octets : Bytes}
    (spelled : List.Forall₂ Pair pairs octets) (more : octets ≠ []) :
    ([':'].intercalate pairs).length + 1 = 3 * octets.length := by
  induction spelled with
  | nil => exact absurd rfl more
  | cons first rest ih =>
    obtain ⟨left, right, value⟩ := first
    cases rest with
    | nil => simp
    | cons next rest =>
      have later := ih (by simp)
      simp only [List.intercalate_cons_cons, List.length_append, List.length_cons,
        List.length_nil] at later ⊢
      omega

private theorem Pair.mem {part : List Char} {octet : UInt8} {c : Char} (pair : Pair part octet)
    (member : c ∈ part) : c.toNat < 0x80 ∧ c ≠ ':' := by
  obtain ⟨left, right, -⟩ := pair
  simp only [List.mem_cons, List.not_mem_nil, or_false] at member
  rcases member with rfl | rfl
  · exact ⟨left.ascii, left.ne_colon⟩
  · exact ⟨right.ascii, right.ne_colon⟩

/-- In a spelling there are ASCII characters only, and none of the pairs has a colon. -/
theorem mem_spelled {pairs : List (List Char)} {octets : Bytes}
    (spelled : List.Forall₂ Pair pairs octets) :
    ∀ part ∈ pairs, ∀ c ∈ part, c.toNat < 0x80 ∧ c ≠ ':' := by
  induction spelled with
  | nil => simp
  | cons first _ ih => exact List.forall_mem_cons.mpr ⟨fun c => first.mem, ih⟩

private theorem ascii_intercalate {parts : List (List Char)}
    (ascii : ∀ part ∈ parts, ∀ c ∈ part, c.toNat < 0x80) :
    ∀ c ∈ [':'].intercalate parts, c.toNat < 0x80 := by
  induction parts with
  | nil => simp
  | cons first rest ih =>
    have here := (List.forall_mem_cons.mp ascii).1
    have later := (List.forall_mem_cons.mp ascii).2
    cases rest with
    | nil => rwa [List.intercalate_singleton]
    | cons next rest =>
      rw [List.intercalate_cons_cons, List.forall_mem_append, List.forall_mem_append]
      exact ⟨⟨here, List.forall_mem_singleton.mpr (by decide)⟩, ih later⟩

/-- A spelling is seventeen bytes long. -/
theorem Spells.length {text : String} {a : Address} (spells : Spells text a) :
    (Text.Utf8.encode text).length = 17 := by
  obtain ⟨pairs, spelled, same⟩ := spells
  have ascii := ascii_intercalate fun part inside c member =>
    (mem_spelled spelled part inside c member).1
  have length := length_spelled spelled a.octets_ne_nil
  rw [a.length_eq] at length
  rw [Text.Utf8.encode, same, bytes_ascii ascii, List.length_map]
  omega

private theorem parseParts?_iff {text : String} {a : Address} :
    parseParts? text = some a ↔ Spells text a := by
  constructor
  · intro read
    unfold parseParts? at read
    split at read
    next => cases read
    next =>
      split at read
      next octets found =>
        obtain rfl := ofOctets?_eq_some read
        obtain ⟨-, pairs, spelled, whole⟩ := octetsOf?_iff.mp found
        rw [List.append_nil] at whole
        exact ⟨pairs, spelled, by rw [← whole, List.intercalate_splitOn]⟩
      next => cases read
  · intro spells
    have length := spells.length
    obtain ⟨pairs, spelled, same⟩ := spells
    have some_pair : pairs ≠ [] := by
      rintro rfl
      exact a.octets_ne_nil (List.forall₂_nil_left_iff.mp spelled)
    -- No pair has a colon in it, so the text is split where the pairs were joined.
    have parts : text.toList.splitOn ':' = pairs := by
      rw [same]
      exact List.splitOn_intercalate ':'
        (fun part inside member => (mem_spelled spelled part inside _ member).2 rfl) some_pair
    have found : octetsOf? 6 pairs = some (a.octets, []) :=
      octetsOf?_iff.mpr ⟨a.length_eq, pairs, spelled, (List.append_nil _).symm⟩
    rw [parseParts?, if_neg (not_not.mpr length), parts, found]
    exact ofOctets?_octets a

/-- Both ways of reading agree on every text. -/
theorem parseParts?_eq (text : String) : parseParts? text = parse? text := by
  refine Option.ext fun a => ?_
  rw [parseParts?_iff, parse?_iff]

end Radio.Address
end BrickControl
