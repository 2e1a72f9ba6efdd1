import BrickControl.Bytes

/-!
# Numbers as text

Decimal digits with zeros before them, and without the zeros behind them that say nothing.
Hexadecimal text has two digits to a byte, in lower case unless a format asks for capitals.
-/
namespace BrickControl.Text

/-- The decimal digits of `n`, at least `width` of them. -/
def padded (width n : Nat) : List Char :=
  let digits := Nat.toDigits 10 n
  List.replicate (width - digits.length) '0' ++ digits

/-- The digits of a fraction up to the last one that is not zero. -/
def trimmed (digits : List Char) : List Char := (digits.reverse.dropWhile (· = '0')).reverse

namespace Hex

/-- The digit of a number below sixteen. -/
def digit (n : Nat) : Char :=
  if n < 10 then Char.ofNat (48 + n) else Char.ofNat (87 + n)

/-- The digit of a number below sixteen, as a capital. -/
def capital (n : Nat) : Char :=
  if n < 10 then Char.ofNat (48 + n) else Char.ofNat (55 + n)

/-- The value of a digit in either case. -/
def value? (c : Char) : Option Nat :=
  if '0' ≤ c ∧ c ≤ '9' then some (c.toNat - 48)
  else if 'a' ≤ c ∧ c ≤ 'f' then some (c.toNat - 87)
  else if 'A' ≤ c ∧ c ≤ 'F' then some (c.toNat - 55)
  else none

/-- The two digits of a byte. -/
def byte (b : UInt8) : String :=
  String.ofList [digit (b.toNat / 16), digit (b.toNat % 16)]

/-- The two digits of a byte, in capitals. -/
def capitalByte (b : UInt8) : String :=
  String.ofList [capital (b.toNat / 16), capital (b.toNat % 16)]

/-- The digits of a byte after the mark of a hexadecimal number. -/
def marked (b : UInt8) : String := "0x" ++ byte b

/-- The four digits of a word. -/
def word (w : UInt16) : String := byte (w >>> 8).toUInt8 ++ byte w.toUInt8

/-- Bytes one after the other. -/
def bytes (data : Bytes) : String :=
  String.ofList (data.flatMap fun b => [digit (b.toNat / 16), digit (b.toNat % 16)])

/-- Bytes with a space between two of them. -/
def spaced (data : Bytes) : String := " ".intercalate (data.map byte)

/-- The digits of a number without leading zeros. -/
def number (n : Nat) : String := String.ofList (Nat.toDigits 16 n)

end Hex
end BrickControl.Text
