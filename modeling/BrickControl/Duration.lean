import BrickControl.Text.Numerals

/-!
# Durations

A length of time in nanoseconds, and its text: the largest unit with a nonzero whole part, and the
fraction without trailing zeros.
-/
namespace BrickControl

/-- A length of time. -/
structure Duration where
  nanos : Nat
  deriving DecidableEq, Repr

namespace Duration

def ofNanos (n : Nat) : Duration := ⟨n⟩
def ofMicros (n : Nat) : Duration := ⟨n * 1000⟩
def ofSeconds (n : Nat) : Duration := ⟨n * 1000000000⟩

/-- No time at all. -/
def zero : Duration := ⟨0⟩

/-- Whole seconds. -/
def seconds (d : Duration) : Nat := d.nanos / 1000000000

/-- Whole milliseconds. -/
def millis (d : Duration) : Nat := d.nanos / 1000000

/-- Whole microseconds after the last whole second. -/
def microsOfSecond (d : Duration) : Nat := d.nanos % 1000000000 / 1000

/-- A number of parts, of which `places` decimals make a unit, with the fraction cut after its last
nonzero digit. -/
def decimal (places n : Nat) : String :=
  let unit := Nat.pow 10 places
  let whole := toString (n / unit)
  let digits := if places = 0 then [] else Text.padded places (n % unit)
  match Text.trimmed digits with
  | [] => whole
  | fraction => whole ++ "." ++ String.ofList fraction

/-- The text of a duration. -/
def text (d : Duration) : String :=
  if 1000000000 ≤ d.nanos then decimal 9 d.nanos ++ "s"
  else if 1000000 ≤ d.nanos then decimal 6 d.nanos ++ "ms"
  else if 1000 ≤ d.nanos then decimal 3 d.nanos ++ "µs"
  else decimal 0 d.nanos ++ "ns"

end Duration
end BrickControl
