import BrickControl.CommandError

/-!
# Ports

The brick has three motor outputs and four sensor inputs. Some commands speak to all outputs at
once.
-/
namespace BrickControl

/-- A motor output. -/
inductive OutputPort where
  | a | b | c
  /-- All outputs at once. -/
  | all
  deriving DecidableEq, Repr

namespace OutputPort

/-- The byte of an output. -/
def byte : OutputPort → UInt8
  | .a => 0x00
  | .b => 0x01
  | .c => 0x02
  | .all => 0xFF

/-- The output of a byte. -/
def ofByte (b : UInt8) : Except CommandError OutputPort :=
  match b with
  | 0x00 => .ok .a
  | 0x01 => .ok .b
  | 0x02 => .ok .c
  | 0xFF => .ok .all
  | _ => .error (.invalidArgument "output port must be 0, 1, 2 or 0xFF")

/-- The letter of an output. -/
def label : OutputPort → String
  | .a => "A"
  | .b => "B"
  | .c => "C"
  | .all => "all"

end OutputPort

/-- A sensor input. -/
inductive InputPort where
  | one | two | three | four
  deriving DecidableEq, Repr

namespace InputPort

/-- The byte of an input. -/
def byte : InputPort → UInt8
  | .one => 0x00
  | .two => 0x01
  | .three => 0x02
  | .four => 0x03

/-- The input of a byte. -/
def ofByte (b : UInt8) : Except CommandError InputPort :=
  match b with
  | 0x00 => .ok .one
  | 0x01 => .ok .two
  | 0x02 => .ok .three
  | 0x03 => .ok .four
  | _ => .error (.invalidArgument "input port must be 0 to 3")

/-- The number of an input as it stands on the brick. -/
def number (p : InputPort) : UInt8 := p.byte + 1

/-- The text of an input. -/
def label (p : InputPort) : String := toString p.number.toNat

end InputPort
end BrickControl
