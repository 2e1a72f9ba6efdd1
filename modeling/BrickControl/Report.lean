import BrickControl.CommandLine.Invocation
import BrickControl.Reply
import BrickControl.Report.Json
import BrickControl.Report.Table
import BrickControl.Brick.Volts

/-!
# Reports

What a subcommand prints: the members of a JSON object for programs, and labelled fields for people,
as a table or as aligned lines.
-/
namespace BrickControl

/-- What a subcommand has to say. -/
structure Report where
  members : List (String × Report.JsonValue)
  fields : List (String × String)
  deriving DecidableEq, Repr

namespace Report

open CommandLine (OutputFormat)

/-- Fields one to a line, with their values aligned. -/
def aligned (fields : List (String × String)) : String :=
  let width := (fields.map fun field => field.1.length).foldl max 0
  "\n".intercalate (fields.map fun field =>
    field.1 ++ Table.repeated (width - field.1.length) ' ' ++ "  " ++ field.2)

/-- The text of a report. -/
def render (report : Report) : OutputFormat → String
  | .json => JsonValue.object report.members
  | .table => Table.render (.of "FIELD" "VALUE")
      (report.fields.map fun field => .of field.1 field.2)
  | .pretty => aligned report.fields

/-- A number of bytes or of anything else that is counted. -/
def count (n : Nat) : JsonValue := .number n

/-- What is said after a command that the brick does not answer. -/
def acknowledgement (command detail : String) : Report where
  members := [("command", .text command), ("detail", .text detail)]
  fields := [("command", command), ("sent", detail)]

/-- The battery's voltage. -/
def battery (millivolts : UInt16) : Report where
  members := [("millivolts", count millivolts.toNat),
    ("volts", .decimal (Volts.exact millivolts.toNat))]
  fields := [("millivolts", toString millivolts.toNat),
    ("volts", Volts.twoPlaces millivolts.toNat)]

/-- The time after which the brick falls asleep. -/
def sleepTimeout (millis : UInt32) : Report where
  members := [("sleep_timeout_ms", count millis.toNat)]
  fields := [("sleep timeout",
    if millis = 0 then "never" else toString (millis.toNat / 60000) ++ " min")]

/-- The running program, if there is one. -/
def program (name : Option String) : Report where
  members := [("running", .flag name.isSome),
    ("name", match name with | some text => .text text | none => .null)]
  fields := [("program", name.getD "(none)")]

/-- The flags of a motor mode in words. -/
def modeFlags (mode : MotorMode) : String :=
  let named := [(MotorMode.motorOn, "on"), (MotorMode.brake, "brake"),
    (MotorMode.regulated, "regulated")]
  match named.filter (fun flag => mode.contains flag.1) with
  | [] => "coast"
  | set => "+".intercalate (set.map Prod.snd)

/-- A run state in words. -/
def runStateName (state : RunState) : String :=
  if state = .idle then "idle"
  else if state = .rampUp then "ramp-up"
  else if state = .running then "running"
  else if state = .rampDown then "ramp-down"
  else "unknown"

/-- The state of an output. -/
def output (reading : OutputReading) : Report where
  members := [("port", .text reading.port.label), ("power", .number reading.power.toInt),
    ("mode", count reading.mode.bits.toNat), ("regulation", count reading.regulation.bits.toNat),
    ("turn_ratio", .number reading.turnRatio.toInt),
    ("run_state", .text (runStateName reading.runState)),
    ("tacho_limit", count reading.tachoLimit.toNat),
    ("tacho_count", .number reading.tachoCount.toInt),
    ("block_tacho_count", .number reading.blockTachoCount.toInt),
    ("rotation_count", .number reading.rotationCount.toInt)]
  fields := [("port", reading.port.label), ("power", toString reading.power.toInt),
    ("mode", modeFlags reading.mode), ("regulation", toString reading.regulation.bits.toNat),
    ("turn ratio", toString reading.turnRatio.toInt),
    ("run state", runStateName reading.runState),
    ("tacho limit", toString reading.tachoLimit.toNat),
    ("tacho count", toString reading.tachoCount.toInt),
    ("block tacho count", toString reading.blockTachoCount.toInt),
    ("rotation count", toString reading.rotationCount.toInt)]

/-- The sorts of sensors in words. -/
def sensorNames : List (SensorType × String) :=
  [(.noSensor, "none"), (.switch, "touch"), (.temperature, "temperature"),
    (.reflection, "reflection"), (.angle, "angle"), (.lightActive, "light (active)"),
    (.lightInactive, "light (ambient)"), (.soundDb, "sound (dB)"), (.soundDba, "sound (dBA)"),
    (.custom, "custom"), (.lowSpeed, "i2c"), (.lowSpeed9V, "i2c (9V)"),
    (.highSpeed, "high speed"), (.colorFull, "color"), (.colorRed, "color"),
    (.colorGreen, "color"), (.colorBlue, "color"), (.colorNone, "color")]

/-- The sort of a sensor in words. -/
def sensorName (type : SensorType) : String := (sensorNames.lookup type).getD "unknown"

/-- The readings of an input. -/
def input (reading : InputReading) : Report where
  members := [("port", count reading.port.number.toNat), ("valid", .flag reading.valid),
    ("calibrated", .flag reading.calibrated),
    ("sensor_type", .text (sensorName reading.sensorType)),
    ("sensor_mode", count reading.sensorMode.bits.toNat), ("raw", count reading.raw.toNat),
    ("normalized", count reading.normalized.toNat), ("scaled", .number reading.scaled.toInt),
    ("calibrated_value", .number reading.calibratedValue.toInt)]
  fields := [("port", toString reading.port.number.toNat),
    ("sensor", sensorName reading.sensorType),
    ("valid", if reading.valid then "true" else "false"), ("raw", toString reading.raw.toNat),
    ("normalized", toString reading.normalized.toNat),
    ("scaled", toString reading.scaled.toInt)]

/-- A mailbox message as text, without the zero byte that ends it. Bytes that are no text, or that
hold another zero byte, are shown in hexadecimal. -/
def preview (data : Bytes) : String :=
  let body := if data.getLast? = some 0 then data.dropLast else data
  match Text.Utf8.decode? body with
  | some text => if body.contains 0 then Text.Hex.spaced data else text
  | none => Text.Hex.spaced data

/-- A mailbox message. -/
def message (remote inbox : UInt8) (data : Bytes) : Report where
  members := [("remote", count remote.toNat), ("local", count inbox.toNat),
    ("length", count data.length), ("text", .text (preview data))]
  fields := [("mailbox", toString remote.toNat), ("length", toString data.length),
    ("message", preview data)]

end Report
end BrickControl
