import BrickControl.Command

/-!
# The layout of requests

`payload` writes down the bytes behind the opcode from the numbers that the arguments stand for,
each brought into its range. `request_payload` says that this is how requests are laid out.
-/
namespace BrickControl

namespace Layout

/-- A number of 16 bits, low byte first. -/
def short (n : Nat) : Bytes := [UInt8.ofNat (n % 256), UInt8.ofNat (n / 256)]

/-- A number of 32 bits, low byte first. -/
def long (n : Nat) : Bytes :=
  [UInt8.ofNat (n % 256), UInt8.ofNat (n / 256 % 256), UInt8.ofNat (n / 65536 % 256),
    UInt8.ofNat (n / 16777216)]

/-- The two's complement of a number from -128 to 127. -/
def signed (n : Int) : UInt8 := UInt8.ofNat (if n < 0 then n + 256 else n).toNat

/-- A flag is one or zero. -/
def flag (b : Bool) : UInt8 := if b then 1 else 0

/-- A name with the zero byte that ends it. -/
def terminated (name : String) : Bytes := Text.Utf8.encode name ++ [0]

/-- Power and turn ratio go up to 100 in either direction. -/
def power (n : Int) : Int := max (-100) (min n 100)

/-- Tones go from 200 to 14000 Hz. -/
def tone (frequency : Nat) : Nat := max 200 (min frequency 14000)

theorem ofNat_low (n : Nat) : UInt8.ofNat (n % 256) = UInt8.ofNat n := UInt8.ofNat_mod_size

theorem ofUInt16_eq (w : UInt16) : Bytes.ofUInt16 w = short w.toNat := by
  simp only [Bytes.ofUInt16, Bytes.littleEndian, short, ofNat_low]

theorem ofUInt32_eq (w : UInt32) : Bytes.ofUInt32 w = long w.toNat := by
  simp only [Bytes.ofUInt32, Bytes.littleEndian, long, ofNat_low, Nat.div_div_eq_div_mul]

/-- A signed byte is laid out as its two's complement. -/
theorem toUInt8_eq (n : Int8) : n.toUInt8 = signed n.toInt := by
  have value : n.toInt = if 2 * n.toUInt8.toNat < 256 then (n.toUInt8.toNat : Int)
      else n.toUInt8.toNat - 256 := BitVec.toInt_eq_toNat_cond n.toBitVec
  have small := n.toUInt8.toNat_lt
  -- The byte is the number itself, or 256 more than a negative one.
  have back : (if n.toInt < 0 then n.toInt + 256 else n.toInt).toNat = n.toUInt8.toNat := by
    split at value <;> split <;> omega
  rw [signed, back, UInt8.ofNat_toNat]

/-- Clamping a power is bringing its number into the range, -128 included, whose opposite no signed
byte holds. -/
private theorem toInt_clampPower (n : Int8) : (clampPower n).toInt = power n.toInt := by
  have most : Limits.fullPower.toInt = 100 := by decide
  have least : (-Limits.fullPower).toInt = -100 := by decide
  rw [clampPower, power]
  -- Below the range, above it and inside it; `omega` knows the numbers, not the bytes.
  split
  next below =>
    rw [Int8.lt_iff_toInt_lt, least] at below
    omega
  next =>
    split
    next above =>
      rw [Int8.lt_iff_toInt_lt, most] at above
      omega
    next =>
      rw [Int8.lt_iff_toInt_lt] at *
      omega

/-- Clamping a tone is bringing its number into the range of the sound module. -/
theorem toNat_clampTone (frequency : UInt16) :
    (clampTone frequency).toNat = tone frequency.toNat := by
  have most : Limits.highestTone.toNat = 14000 := by decide
  have least : Limits.lowestTone.toNat = 200 := by decide
  simp only [clampTone, tone, UInt16.lt_iff_toNat_lt]
  split
  next below => omega
  next =>
    split
    next above => omega
    next => omega

end Layout

namespace Command
open Layout

/-- The bytes behind the opcode. -/
def payload : Command → Bytes
  | .startProgram name => terminated name
  | .playSoundFile looped name => flag looped :: terminated name
  | .playTone frequency duration => short (tone frequency.toNat) ++ short duration.toNat
  | .setOutputState state =>
    [state.port.byte, signed (power state.power.toInt), state.mode.bits, state.regulation.bits,
      signed (power state.turnRatio.toInt), state.runState.bits] ++ long state.tachoLimit.toNat
  | .setInputMode port type mode => [port.byte, type.bits, mode.bits]
  | .getOutputState port => [port.byte]
  | .getInputValues port | .resetInputScaledValue port | .lsGetStatus port | .lsRead port =>
    [port.byte]
  | .messageWrite inbox data => inbox :: UInt8.ofNat data.length :: data
  | .resetMotorPosition port relative => [port.byte, flag relative]
  | .lsWrite port data replyLength =>
    port.byte :: UInt8.ofNat data.length :: replyLength :: data
  | .messageRead remote inbox remove => [remote, inbox, flag remove]
  | .stopProgram | .getBatteryLevel | .stopSoundPlayback | .keepAlive
  | .getCurrentProgramName => []

/-- The fields of a request, one behind the other, are its payload. -/
private theorem fields_payload (command : Command) :
    command.fields.flatMap Field.bytes = command.payload := by
  cases command with
  -- The operations whose arguments are clamped or whose text has a length; all others are laid out
  -- as they are.
  | playTone frequency duration =>
    simp [fields, Field.bytes, payload, ofUInt16_eq, toNat_clampTone]
  | setOutputState state =>
    simp [fields, Field.bytes, payload, ofUInt32_eq, toUInt8_eq, toInt_clampPower]
  | messageWrite inbox data => simp [fields, Field.bytes, payload]
  | lsWrite port data replyLength => simp [fields, Field.bytes, payload]
  | _ => rfl

/-- A request is its telegram type, its opcode and its payload. The type asks for a reply exactly if
the operation has one. -/
theorem request_payload (command : Command) :
    command.request = (if command.opcode.replyLength?.isSome then 0x00 else 0x80) ::
      command.opcode.byte :: command.payload := by
  rw [request, fields_payload, Opcode.replyMode, ReplyMode.ofFlag]
  split <;> rfl

example : payload (.playTone 100 300) = [200, 0, 0x2C, 0x01] := by decide

example : payload (.setOutputState {
      port := .a, power := 101, mode := .motorOn ||| .regulated, regulation := .motorSpeed,
      turnRatio := -128, runState := .running, tachoLimit := 0x01020304 }) =
    [0x00, 0x64, 0x05, 0x01, 0x9C, 0x20, 0x04, 0x03, 0x02, 0x01] := by decide

end Command

/-! ### Modes and slopes in one byte -/

namespace SensorMode

/-- The modes of a sensor, each without a slope. -/
def named : List SensorMode :=
  [raw, boolean, transitionCount, periodCounter, percentFullScale, celsius, fahrenheit, angleSteps]

/-- Whatever byte stands for a mode, without its slope it is one of those that have a name. -/
theorem mode_mem_named (mode : SensorMode) : mode.mode ∈ named := by
  -- There are 256 bytes to try.
  have every : ∀ n : Fin 256, SensorMode.mode ⟨UInt8.ofNat n⟩ ∈ named := by decide +kernel
  have own := every ⟨mode.bits.toNat, mode.bits.toNat_lt⟩
  rwa [UInt8.ofNat_toNat] at own

/-- A slope does not reach into the bits of the mode, however large it is. -/
theorem mode_withSlope (mode : SensorMode) (slope : UInt8) :
    (mode.withSlope slope).mode = mode.mode := by
  have apart : slopeMask.toNat &&& modeMask.toNat = 0 := by decide
  simp only [withSlope, SensorMode.mode, mk.injEq, ← UInt8.toNat_inj, UInt8.toNat_and,
    UInt8.toNat_or, Nat.and_or_distrib_right, Nat.and_assoc, Nat.and_self, apart, Nat.and_zero,
    Nat.or_zero]

/-- The slope that was put in is read back, cut to its five bits. -/
theorem slope_withSlope (mode : SensorMode) (slope : UInt8) :
    (mode.withSlope slope).slope = slope &&& slopeMask := by
  have apart : modeMask.toNat &&& slopeMask.toNat = 0 := by decide
  simp only [withSlope, SensorMode.slope, ← UInt8.toNat_inj, UInt8.toNat_and, UInt8.toNat_or,
    Nat.and_or_distrib_right, Nat.and_assoc, Nat.and_self, apart, Nat.and_zero, Nat.zero_or]

/-- Mode and slope together are the whole byte. -/
theorem withSlope_slope (mode : SensorMode) : mode.withSlope mode.slope = mode := by
  obtain ⟨bits⟩ := mode
  have all : modeMask.toNat ||| slopeMask.toNat = 2 ^ 8 - 1 := by decide
  -- The two masks have all eight bits between them, and no bit of a byte is above those.
  have whole : bits.toNat &&& (2 ^ 8 - 1) = bits.toNat := by
    rw [Nat.and_two_pow_sub_one_eq_mod]
    exact Nat.mod_eq_of_lt bits.toNat_lt
  simp only [withSlope, SensorMode.slope, mk.injEq, ← UInt8.toNat_inj, UInt8.toNat_and,
    UInt8.toNat_or, Nat.and_assoc, Nat.and_self, ← Nat.and_or_distrib_left, all, whole]

end SensorMode

end BrickControl
