import BrickControl.Text.Numerals

/-!
# Volts

The battery reports millivolts. As JSON the voltage has the fewest decimals that say it exactly. As
text it has two, rounded from the nearest 53-bit binary fraction, which is how a voltage is held; a
tie goes to the even neighbour.
-/
namespace BrickControl.Volts

/-- A quotient rounded to the nearest whole number, a tie to the even one. -/
def roundedQuotient (numerator denominator : Nat) : Nat :=
  let q := numerator / denominator
  let twice := 2 * (numerator % denominator)
  if twice < denominator then q
  else if twice = denominator then (if q % 2 = 0 then q else q + 1)
  else q + 1

/-- The nearest binary fraction of 53 bits to a number of thousandths: its numerator, and the
exponent of its denominator. -/
def binaryFraction (thousandths : Nat) : Nat × Nat :=
  -- The number is multiplied by 1024 first, so that it is at least one and its logarithm exists.
  let exponent := 62 - Nat.log2 (thousandths * 1024 / 1000)
  (roundedQuotient (thousandths <<< exponent) 1000, exponent)

/-- The voltage with two decimals. -/
def twoPlaces (millivolts : Nat) : String :=
  let (numerator, exponent) := binaryFraction millivolts
  let hundredths := roundedQuotient (numerator * 100) (1 <<< exponent)
  toString (hundredths / 100) ++ "." ++ String.ofList (Text.padded 2 (hundredths % 100))

/-- The voltage with as many decimals as it needs, and at least one. -/
def exact (millivolts : Nat) : String :=
  let decimals := Text.trimmed (Text.padded 3 (millivolts % 1000))
  toString (millivolts / 1000) ++ "."
    ++ (if decimals.isEmpty then "0" else String.ofList decimals)

end BrickControl.Volts
