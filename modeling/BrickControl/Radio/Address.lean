import BrickControl.Text.Numerals
import BrickControl.TransportError

/-!
# Radio addresses

A radio device has an address of six octets. It is written with the most significant octet first,
and stored by the system with the least significant one first. Reading and writing are inverse up
to the case of the digits.
-/
namespace BrickControl.Radio

/-- The address of a radio device, most significant octet first. -/
structure Address where
  octets : Bytes
  length_eq : octets.length = 6
  deriving DecidableEq

namespace Address

/-- The address with these octets, if there are six of them. -/
def ofOctets? (octets : Bytes) : Option Address :=
  if six : octets.length = 6 then some ⟨octets, six⟩ else none

/-- The octets as the system stores them, least significant first. -/
def stored (a : Address) : Bytes := a.octets.reverse

/-- The address that the system stores as these octets. -/
def ofStored? (octets : Bytes) : Option Address := ofOctets? octets.reverse

@[simp] theorem length_stored (a : Address) : a.stored.length = 6 := by
  simp [stored, a.length_eq]

@[simp] theorem ofStored?_stored (a : Address) : ofStored? a.stored = some a := by
  simp [ofStored?, stored, ofOctets?, a.length_eq]

/-- The text of an address: six pairs of capital digits with colons between them. -/
def text (a : Address) : String := ":".intercalate (a.octets.map Text.Hex.capitalByte)

/-- Pairs of hexadecimal digits with single colons between them, and nothing else. -/
def pairs? : List Char → Option Bytes
  | [high, low] =>
    match Text.Hex.value? high, Text.Hex.value? low with
    | some h, some l => some [UInt8.ofNat (16 * h + l)]
    | _, _ => none
  | high :: low :: ':' :: rest =>
    match Text.Hex.value? high, Text.Hex.value? low, pairs? rest with
    | some h, some l, some others => some (UInt8.ofNat (16 * h + l) :: others)
    | _, _, _ => none
  | _ => none

/-- The address that a text spells. -/
def parse? (text : String) : Option Address :=
  match pairs? text.toList with
  | some octets => ofOctets? octets
  | none => none

/-- The address that a text spells, or the reason why it spells none. -/
def parse (text : String) : Except TransportError Address :=
  match parse? text with
  | some a => .ok a
  | none => .error (.invalidAddress text)

/-- Whether a text spells an address. -/
def isAddress (text : String) : Bool := (parse? text).isSome

end Address

/-- Where a radio connection should go. -/
inductive Destination where
  /-- A device with a known address. -/
  | address (a : Address)
  /-- A device with a known name, to be found first. -/
  | name (n : String)
  deriving DecidableEq

/-- A text that spells an address means that address; any other text is a name, and only the empty
text is refused. -/
def Destination.parse (text : String) : Except TransportError Destination :=
  if text.isEmpty then .error (.invalidAddress "")
  else match Address.parse? text with
    | some a => .ok (.address a)
    | none => .ok (.name text)

end BrickControl.Radio
