import BrickControl.Text.Numerals

/-!
# Flat JSON objects

The compact form of an object whose members are simple values, in their order.
-/
namespace BrickControl.Report

/-- A simple value. -/
inductive JsonValue where
  | null
  | flag (b : Bool)
  | number (n : Int)
  /-- A number that is already written out. -/
  | decimal (digits : String)
  | text (s : String)
  deriving DecidableEq, Repr

namespace JsonValue

/-- One character of a string: quotes, backslashes and control characters are escaped. -/
def escapedChar (c : Char) : String :=
  if c = '"' then "\\\""
  else if c = '\\' then "\\\\"
  else if c.toNat = 0x08 then "\\b"
  else if c.toNat = 0x0C then "\\f"
  else if c = '\n' then "\\n"
  else if c = '\r' then "\\r"
  else if c = '\t' then "\\t"
  else if c.toNat < 0x20 then "\\u00" ++ Text.Hex.byte (UInt8.ofNat c.toNat)
  else c.toString

/-- A string in quotes. -/
def string (s : String) : String := "\"" ++ String.join (s.toList.map escapedChar) ++ "\""

/-- The text of a value. -/
def render : JsonValue → String
  | .null => "null"
  | .flag b => if b then "true" else "false"
  | .number n => toString n
  | .decimal digits => digits
  | .text s => string s

/-- The text of an object. -/
def object (members : List (String × JsonValue)) : String :=
  "\x7b" ++ ",".intercalate (members.map fun member => string member.1 ++ ":" ++ member.2.render)
    ++ "\x7d"

end JsonValue
end BrickControl.Report
