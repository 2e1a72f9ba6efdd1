import BrickControl.Text.Utf8

/-!
# Round trip of UTF-8

What `encode` writes is read back without a gap, by the strict reading and by the lossy one. There
is one lemma about `piece` for each length of a sequence, in terms of the number in the lead byte
and of the six-bit digits in the bytes after it.
-/
namespace BrickControl.Text.Utf8

/-! ### The lead byte and the one after it -/

theorem trailing_one {lead : Nat} (low : 0xC2 ≤ lead) (high : lead < 0xE0) :
    trailing lead = some 1 := by
  rw [trailing, if_neg (by omega), if_neg (by omega), if_pos high]

theorem trailing_two {lead : Nat} (low : 0xE0 ≤ lead) (high : lead < 0xF0) :
    trailing lead = some 2 := by
  rw [trailing, if_neg (by omega), if_neg (by omega), if_neg (by omega), if_pos high]

theorem trailing_three {lead : Nat} (low : 0xF0 ≤ lead) (high : lead < 0xF5) :
    trailing lead = some 3 := by
  rw [trailing, if_neg (by omega), if_neg (by omega), if_neg (by omega), if_neg (by omega),
    if_pos high]

/-- A continuation byte fits second after any lead byte but the four that narrow it. -/
theorem secondFits_of {lead second : Nat} (continued : continues second)
    (long : lead = 0xE0 → 0xA0 ≤ second) (surrogate : lead = 0xED → second ≤ 0x9F)
    (longest : lead = 0xF0 → 0x90 ≤ second) (last : lead = 0xF4 → second ≤ 0x8F) :
    secondFits lead second := by
  simp only [continues, Bool.and_eq_true, decide_eq_true_eq] at continued
  simp only [secondFits, Bool.and_eq_true, decide_eq_true_eq]
  -- The lower bound is narrowed after 0xE0 and 0xF0, the upper one after 0xED and 0xF4.
  constructor
  · split
    next is => exact long is
    next =>
      split
      next is => exact longest is
      next => exact continued.1
  · split
    next is => exact surrogate is
    next =>
      split
      next is => exact last is
      next => exact continued.2

/-! ### One sequence, from its lead and its digits -/

theorem toNat_byte {n : Nat} (small : n < 256) : (UInt8.ofNat n).toNat = n :=
  UInt8.toNat_ofNat_of_lt' small

theorem toNat_digit (n : Nat) : (UInt8.ofNat (0x80 + n % 64)).toNat = 0x80 + n % 64 :=
  toNat_byte (by omega)

theorem continues_digit (n : Nat) : continues (0x80 + n % 64) := by
  simp only [continues, Bool.and_eq_true, decide_eq_true_eq]
  omega

private theorem piece_single {lead : Nat} (rest : Bytes) (ascii : lead < 0x80) :
    piece (UInt8.ofNat lead) rest = (some (Char.ofNat lead), 0) := by
  have alone : trailing lead = some 0 := if_pos ascii
  simp only [piece, toNat_byte (show lead < 256 by omega), alone]

private theorem piece_pair {lead : Nat} (b : Nat) (rest : Bytes) (low : 0xC2 ≤ lead)
    (high : lead < 0xE0) : piece (UInt8.ofNat lead) (UInt8.ofNat (0x80 + b % 64) :: rest) =
      (some (Char.ofNat ((lead - 0xC0) * 64 + b % 64)), 1) := by
  have second : secondFits lead (0x80 + b % 64) :=
    secondFits_of (continues_digit b) (by omega) (by omega) (by omega) (by omega)
  simp only [piece, toNat_byte (show lead < 256 by omega), toNat_digit, trailing_one low high,
    second, if_true, Nat.add_sub_cancel_left]

private theorem piece_triple {lead b : Nat} (c : Nat) (rest : Bytes) (low : 0xE0 ≤ lead)
    (high : lead < 0xF0) (second : secondFits lead (0x80 + b % 64)) :
    piece (UInt8.ofNat lead)
        (UInt8.ofNat (0x80 + b % 64) :: UInt8.ofNat (0x80 + c % 64) :: rest) =
      (some (Char.ofNat ((lead - 0xE0) * 4096 + b % 64 * 64 + c % 64)), 2) := by
  simp only [piece, toNat_byte (show lead < 256 by omega), toNat_digit, trailing_two low high,
    second, continues_digit, if_true, Nat.add_sub_cancel_left]

private theorem piece_quadruple {lead b : Nat} (c d : Nat) (rest : Bytes) (low : 0xF0 ≤ lead)
    (high : lead < 0xF5) (second : secondFits lead (0x80 + b % 64)) :
    piece (UInt8.ofNat lead)
        (UInt8.ofNat (0x80 + b % 64) :: UInt8.ofNat (0x80 + c % 64) ::
          UInt8.ofNat (0x80 + d % 64) :: rest) =
      (some (Char.ofNat ((lead - 0xF0) * 262144 + b % 64 * 4096 + c % 64 * 64 + d % 64)), 3) := by
  simp only [piece, toNat_byte (show lead < 256 by omega), toNat_digit, trailing_three low high,
    second, continues_digit, if_true, Nat.add_sub_cancel_left]

/-! ### Characters and texts -/

theorem toNat_range (c : Char) : c.toNat < 0xD800 ∨ 0xDFFF < c.toNat ∧ c.toNat < 0x110000 :=
  c.valid

/-- The bytes of a character are read as this character, whatever follows them. -/
theorem pieces_encodeChar (c : Char) (rest : Bytes) :
    pieces (encodeChar c ++ rest) = some c :: pieces rest := by
  have range := toNat_range c
  have self := Char.ofNat_toNat c
  rw [encodeChar]
  generalize c.toNat = n at range self ⊢
  -- One case for each length of a sequence; `whole` puts the number together from its digits.
  split
  next single =>
    have found := piece_single rest single
    rw [List.cons_append, List.nil_append, pieces, found, self, List.drop_zero]
  next =>
    split
    next pair =>
      have found : piece (UInt8.ofNat (0xC0 + n / 64)) _ = _ :=
        piece_pair n rest (by omega) (by omega)
      have whole : (0xC0 + n / 64 - 0xC0) * 64 + n % 64 = n := by omega
      rw [whole, self] at found
      rw [List.cons_append, List.cons_append, List.nil_append, pieces, found,
        List.drop_succ_cons, List.drop_zero]
    next =>
      split
      next triple =>
        -- After the first lead a smaller digit would be overlong; a surrogate has one from 32 on.
        have second : secondFits (0xE0 + n / 4096) (0x80 + n / 64 % 64) :=
          secondFits_of (continues_digit _) (by omega) (by omega) (by omega) (by omega)
        have found := piece_triple n rest (by omega) (by omega) second
        have whole : (0xE0 + n / 4096 - 0xE0) * 4096 + n / 64 % 64 * 64 + n % 64 = n := by omega
        rw [whole, self] at found
        rw [List.cons_append, List.cons_append, List.cons_append, List.nil_append, pieces, found,
          List.drop_succ_cons, List.drop_succ_cons, List.drop_zero]
      next =>
        -- After the first lead a smaller digit would be overlong, after the last one too large.
        have second : secondFits (0xF0 + n / 262144) (0x80 + n / 4096 % 64) :=
          secondFits_of (continues_digit _) (by omega) (by omega) (by omega) (by omega)
        have found := piece_quadruple (n / 64) n rest (by omega) (by omega) second
        have whole : (0xF0 + n / 262144 - 0xF0) * 262144 + n / 4096 % 64 * 4096 +
            n / 64 % 64 * 64 + n % 64 = n := by omega
        rw [whole, self] at found
        rw [List.cons_append, List.cons_append, List.cons_append, List.cons_append,
          List.nil_append, pieces, found, List.drop_succ_cons, List.drop_succ_cons,
          List.drop_succ_cons, List.drop_zero]

theorem pieces_encode (text : String) : pieces (encode text) = text.toList.map some := by
  rw [encode]
  induction text.toList with
  | nil => rw [List.flatMap_nil, pieces, List.map_nil]
  | cons c rest ih => rw [List.flatMap_cons, pieces_encodeChar, ih, List.map_cons]

/-- The strict reading of a text's bytes is the text. -/
theorem decode?_encode (text : String) : decode? (encode text) = some text := by
  have each (chars : List Char) : (chars.map some).mapM id = some chars := by
    rw [List.mapM_map]
    exact (List.mapM_pure (f := fun c => c)).trans (congrArg some (List.map_id' chars))
  rw [decode?, pieces_encode, each, Option.map_some, String.ofList_toList]

/-- The lossy reading of a text's bytes is the text. -/
theorem decodeLossy_encode (text : String) : decodeLossy (encode text) = text := by
  rw [decodeLossy, pieces_encode, List.map_map]
  exact (congrArg String.ofList (List.map_id' _)).trans String.ofList_toList

end BrickControl.Text.Utf8
