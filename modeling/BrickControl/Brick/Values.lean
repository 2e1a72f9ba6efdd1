import BrickControl.Brick.Port
import BrickControl.Text.Numerals

/-!
# Motor and sensor values

Small values that travel as single bytes. A byte without a name is kept as it is.
-/
namespace BrickControl

/-- Flags of an output: on, braking, regulated. -/
structure MotorMode where
  bits : UInt8
  deriving DecidableEq, Repr

namespace MotorMode

def idle : MotorMode := ⟨0x00⟩
def motorOn : MotorMode := ⟨0x01⟩
def brake : MotorMode := ⟨0x02⟩
def regulated : MotorMode := ⟨0x04⟩

/-- All flags of `other` are set. -/
def contains (mode other : MotorMode) : Bool := mode.bits &&& other.bits = other.bits

/-- The flags of both. -/
def union (mode other : MotorMode) : MotorMode := ⟨mode.bits ||| other.bits⟩

instance : OrOp MotorMode := ⟨union⟩

def text (mode : MotorMode) : String := Text.Hex.marked mode.bits

end MotorMode

/-- How the speed of a motor is regulated. -/
structure RegulationMode where
  bits : UInt8
  deriving DecidableEq, Repr

namespace RegulationMode

def idle : RegulationMode := ⟨0x00⟩
def motorSpeed : RegulationMode := ⟨0x01⟩
def motorSync : RegulationMode := ⟨0x02⟩

def text (mode : RegulationMode) : String := Text.Hex.marked mode.bits

end RegulationMode

/-- What a motor is doing. -/
structure RunState where
  bits : UInt8
  deriving DecidableEq, Repr

namespace RunState

def idle : RunState := ⟨0x00⟩
def rampUp : RunState := ⟨0x10⟩
def running : RunState := ⟨0x20⟩
def rampDown : RunState := ⟨0x40⟩

def text (state : RunState) : String := Text.Hex.marked state.bits

end RunState

/-- The sort of sensor at an input. -/
structure SensorType where
  bits : UInt8
  deriving DecidableEq, Repr

namespace SensorType

def noSensor : SensorType := ⟨0x00⟩
def switch : SensorType := ⟨0x01⟩
def temperature : SensorType := ⟨0x02⟩
def reflection : SensorType := ⟨0x03⟩
def angle : SensorType := ⟨0x04⟩
def lightActive : SensorType := ⟨0x05⟩
def lightInactive : SensorType := ⟨0x06⟩
def soundDb : SensorType := ⟨0x07⟩
def soundDba : SensorType := ⟨0x08⟩
def custom : SensorType := ⟨0x09⟩
def lowSpeed : SensorType := ⟨0x0A⟩
def lowSpeed9V : SensorType := ⟨0x0B⟩
def highSpeed : SensorType := ⟨0x0C⟩
def colorFull : SensorType := ⟨0x0D⟩
def colorRed : SensorType := ⟨0x0E⟩
def colorGreen : SensorType := ⟨0x0F⟩
def colorBlue : SensorType := ⟨0x10⟩
def colorNone : SensorType := ⟨0x11⟩

def text (type : SensorType) : String := Text.Hex.marked type.bits

end SensorType

/-- How a sensor's value is scaled: a mode in the high three bits, a slope in the low five. -/
structure SensorMode where
  bits : UInt8
  deriving DecidableEq, Repr

namespace SensorMode

def raw : SensorMode := ⟨0x00⟩
def boolean : SensorMode := ⟨0x20⟩
def transitionCount : SensorMode := ⟨0x40⟩
def periodCounter : SensorMode := ⟨0x60⟩
def percentFullScale : SensorMode := ⟨0x80⟩
def celsius : SensorMode := ⟨0xA0⟩
def fahrenheit : SensorMode := ⟨0xC0⟩
def angleSteps : SensorMode := ⟨0xE0⟩

/-- The bits of the slope. -/
def slopeMask : UInt8 := 0x1F

/-- The bits of the mode. -/
def modeMask : UInt8 := 0xE0

/-- The mode with another slope, which is cut to its five bits. -/
def withSlope (mode : SensorMode) (slope : UInt8) : SensorMode :=
  ⟨(mode.bits &&& modeMask) ||| (slope &&& slopeMask)⟩

/-- The mode without its slope. -/
def mode (mode : SensorMode) : SensorMode := ⟨mode.bits &&& modeMask⟩

/-- The slope alone. -/
def slope (mode : SensorMode) : UInt8 := mode.bits &&& slopeMask

def text (mode : SensorMode) : String := Text.Hex.marked mode.bits

end SensorMode

/-- The settings of an output. -/
structure OutputState where
  port : OutputPort
  power : Int8
  mode : MotorMode
  regulation : RegulationMode
  turnRatio : Int8
  runState : RunState
  /-- How far to run, in degrees; zero means without end. -/
  tachoLimit : UInt32
  deriving DecidableEq, Repr

/-- An output that coasts. -/
def OutputState.idle (port : OutputPort) : OutputState where
  port := port
  power := 0
  mode := .idle
  regulation := .idle
  turnRatio := 0
  runState := .idle
  tachoLimit := 0

/-- The state of an output as the brick reports it. -/
structure OutputReading where
  port : OutputPort
  power : Int8
  mode : MotorMode
  regulation : RegulationMode
  turnRatio : Int8
  runState : RunState
  tachoLimit : UInt32
  /-- Degrees since the motor was reset. -/
  tachoCount : Int32
  /-- Degrees since the last programmed movement. -/
  blockTachoCount : Int32
  /-- Degrees since the position was reset. -/
  rotationCount : Int32
  deriving DecidableEq, Repr

/-- The readings of an input as the brick reports them. -/
structure InputReading where
  port : InputPort
  valid : Bool
  calibrated : Bool
  sensorType : SensorType
  sensorMode : SensorMode
  raw : UInt16
  normalized : UInt16
  scaled : Int16
  calibratedValue : Int16
  deriving DecidableEq, Repr

end BrickControl
