import BrickControl.Bytes

/-!
# UTF-8

`encode` writes text as bytes. `pieces` reads bytes from the left: a well-formed sequence becomes
its character, and the longest start of a sequence that cannot go on becomes one gap. `decode?`
accepts bytes without a gap; `decodeLossy` puts the replacement character into each gap.
-/
namespace BrickControl.Text.Utf8

/-- The bytes of one character. -/
def encodeChar (c : Char) : Bytes :=
  let n := c.toNat
  if n < 0x80 then [UInt8.ofNat n]
  else if n < 0x800 then [UInt8.ofNat (0xC0 + n / 64), UInt8.ofNat (0x80 + n % 64)]
  else if n < 0x10000 then
    [UInt8.ofNat (0xE0 + n / 4096), UInt8.ofNat (0x80 + n / 64 % 64), UInt8.ofNat (0x80 + n % 64)]
  else
    [UInt8.ofNat (0xF0 + n / 262144), UInt8.ofNat (0x80 + n / 4096 % 64),
      UInt8.ofNat (0x80 + n / 64 % 64), UInt8.ofNat (0x80 + n % 64)]

/-- The bytes of a text. -/
def encode (text : String) : Bytes := text.toList.flatMap encodeChar

/-- How many bytes follow a lead byte, or nothing when no sequence starts with it. -/
def trailing (lead : Nat) : Option Nat :=
  if lead < 0x80 then some 0
  else if lead < 0xC2 then none
  else if lead < 0xE0 then some 1
  else if lead < 0xF0 then some 2
  else if lead < 0xF5 then some 3
  else none

/-- Whether a byte may stand second after this lead byte: overlong forms, surrogates and numbers
above the last code point are cut off here. -/
def secondFits (lead second : Nat) : Bool :=
  -- Below `low` the form is overlong; above `high` it is a surrogate or past the last code point.
  let low := if lead = 0xE0 then 0xA0 else if lead = 0xF0 then 0x90 else 0x80
  let high := if lead = 0xED then 0x9F else if lead = 0xF4 then 0x8F else 0xBF
  low ≤ second && second ≤ high

/-- A continuation byte. -/
def continues (byte : Nat) : Bool := 0x80 ≤ byte && byte ≤ 0xBF

/-- The first piece after `lead`: a character, or a gap, and how many of the bytes that follow the
lead byte belong to it. -/
def piece (lead : UInt8) (rest : Bytes) : Option Char × Nat :=
  let l := lead.toNat
  match trailing l, rest with
  | some 0, _ => (some (Char.ofNat l), 0)
  | some 1, b :: _ =>
    if secondFits l b.toNat then (some (Char.ofNat ((l - 0xC0) * 64 + (b.toNat - 0x80))), 1)
    else (none, 0)
  | some 2, b :: after =>
    if secondFits l b.toNat then
      match after with
      | c :: _ =>
        if continues c.toNat then
          (some (Char.ofNat ((l - 0xE0) * 4096 + (b.toNat - 0x80) * 64 + (c.toNat - 0x80))), 2)
        else (none, 1)
      | [] => (none, 1)
    else (none, 0)
  | some 3, b :: after =>
    if secondFits l b.toNat then
      match after with
      | c :: d :: _ =>
        if continues c.toNat then
          if continues d.toNat then
            (some (Char.ofNat ((l - 0xF0) * 262144 + (b.toNat - 0x80) * 4096
              + (c.toNat - 0x80) * 64 + (d.toNat - 0x80))), 3)
          else (none, 2)
        else (none, 1)
      | [c] => if continues c.toNat then (none, 2) else (none, 1)
      | [] => (none, 1)
    else (none, 0)
  | _, _ => (none, 0)

/-- The characters and gaps of a byte sequence. -/
def pieces : Bytes → List (Option Char)
  | [] => []
  | lead :: rest => (piece lead rest).1 :: pieces (rest.drop (piece lead rest).2)
termination_by data => data.length
decreasing_by simp only [List.length_cons, List.length_drop]; omega

/-- The text of well-formed bytes. -/
def decode? (data : Bytes) : Option String := ((pieces data).mapM id).map String.ofList

/-- The text of any bytes, with the replacement character in each gap. -/
def decodeLossy (data : Bytes) : String :=
  String.ofList ((pieces data).map fun found => found.getD (Char.ofNat 0xFFFD))

end BrickControl.Text.Utf8
