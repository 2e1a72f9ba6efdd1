import BrickControl.Text.CodePoints
import BrickControl.Text.Numerals
import BrickControl.Text.Unprintable

/-!
# Quoted text

How a message shows a text that came from outside: between double quotes, with everything written
out that could be mistaken, hidden, or drawn onto the quote before it.
-/
namespace BrickControl.Text

/-- A character that shows itself. -/
def isPrintable (c : Char) : Bool :=
  !unprintable.has c && !graphemeExtend.has c && !defaultIgnorable.has c

/-- One character inside quotes. -/
def quotedChar (c : Char) : String :=
  if c = '"' then "\\\""
  else if c = '\\' then "\\\\"
  else if c = '\t' then "\\t"
  else if c = '\r' then "\\r"
  else if c = '\n' then "\\n"
  else if c.toNat = 0 then "\\0"
  else if isPrintable c then c.toString
  else "\\u\x7b" ++ Hex.number c.toNat ++ "\x7d"

/-- A text between quotes. -/
def quoted (text : String) : String :=
  "\"" ++ String.join (text.toList.map quotedChar) ++ "\""

end BrickControl.Text
