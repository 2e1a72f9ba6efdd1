import BrickControl.CommandLine.Exit
import BrickControl.Device
import BrickControl.Report

/-!
# Running a subcommand

A subcommand connects, performs one command, closes the connection whatever came of it, and prints
a report. Failures are told on the error output.

Three things that the program writes are left out or simplified. Log lines, which go to the error
output too, are not modelled. What is printed for a command line that is not run is shorter than the
program's help and usage texts. The extended version text is that of a build with both backends that
names neither its target nor its profile.
-/
namespace BrickControl.CommandLine

/-- What the program leaves behind. -/
structure Outcome where
  exitCode : Nat
  output : String
  errors : String
  deriving DecidableEq, Repr

/-- The outcome of a run that printed a text or failed. -/
def Outcome.of : Except Failure String → Outcome
  | .ok text => ⟨ExitCode.success, text, ""⟩
  | .error failure => ⟨failure.code, "", "error: " ++ failure.message ++ "\n"⟩

/-- The program's version. -/
def versionNumber : String := "0.1.0"

/-- What the program says about itself. -/
def versionText (extended : Bool) : String :=
  if extended then
    "name: nxtlink\nversion: " ++ versionNumber
      ++ "\ntarget: unknown\nprofile: unknown\nbackends: radio=true, usb=true\n"
  else "nxtlink " ++ versionNumber ++ "\n"

/-- A message as the brick expects it: with a zero byte at its end, unless it is sent raw. -/
def encodeMessage (text : String) (raw : Bool) : Except Failure Bytes :=
  let bytes := Text.Utf8.encode text
  let data := if raw then bytes else bytes ++ [0]
  if data.length > Limits.messageLength then
    .error ⟨ExitCode.usage, "message is " ++ toString data.length ++ " bytes, the brick accepts "
      ++ toString Limits.messageLength⟩
  else .ok data

section

variable {σ : Type} [Backend σ]

/-- Performs a command and names what was being done if it fails. -/
def performing (context : String) (command : Command) :
    Act (Connection σ) Failure command.Answer :=
  (Connection.perform command).mapError (Failure.ofCommand context)

/-- Performs a command that the brick does not answer, and reports what was sent. -/
def acknowledge (context : String) (command : Command) (detail : String) :
    Act (Connection σ) Failure Report := do
  let _ ← performing context command
  pure (.acknowledgement context detail)

/-- The running program; none is no failure. -/
def runningProgram : Act (Connection σ) Failure Report := fun connection =>
  match Connection.perform .getCurrentProgramName connection with
  | (.ok name, connection) => (.ok (.program (some name)), connection)
  | (.error (.device .noActiveProgram), connection) => (.ok (.program none), connection)
  | (.error e, connection) => (.error (.ofCommand "program" e), connection)

/-- Reads a mailbox message into a buffer of the longest message. -/
def readMailbox (remote inbox : UInt8) (keep : Bool) : Act (Connection σ) Failure Report :=
  fun connection =>
    let buffer := List.replicate Limits.messageLength 0
    match Connection.messageRead remote inbox (!keep) buffer connection with
    | (⟨.ok length, held⟩, connection) =>
      (.ok (.message remote inbox (held.take length)), connection)
    | (⟨.error e, _⟩, connection) => (.error (.ofCommand "read-message" e), connection)

/-- What a subcommand does on an open connection. -/
def BrickCommand.report : BrickCommand → Act (Connection σ) Failure Report
  | .battery => do return .battery (← performing "battery" .getBatteryLevel)
  | .keepalive => do return .sleepTimeout (← performing "keepalive" .keepAlive)
  | .tone frequency duration =>
    acknowledge "tone" (.playTone frequency duration)
      (toString frequency.toNat ++ " Hz for " ++ toString duration.toNat ++ " ms")
  | .start name => acknowledge "start" (.startProgram name) name
  | .stop => acknowledge "stop" .stopProgram ""
  | .program => runningProgram
  | .sendMessage inbox raw text => do
    let data ← Act.ofExcept (encodeMessage text raw)
    acknowledge "send-message" (.messageWrite inbox data)
      (toString data.length ++ " bytes to mailbox " ++ toString inbox.toNat)
  | .readMessage remote inbox keep => readMailbox remote inbox keep
  | .output port => do return .output (← performing "output" (.getOutputState port))
  | .input number => do
    let byte := UInt8.ofNat (number.toNat - 1)
    let port ← (Act.ofExcept (InputPort.ofByte byte)).mapError fun e =>
      Failure.mk ExitCode.usage ("input: " ++ e.message)
    return .input (← performing "input" (.getInputValues port))

end

/-- Connects as the command line says. USB counts more than an address. -/
def Target.connect (target : Target) : Act Host CommandError Device :=
  if target.usb then Device.openUsb
  else match target.address with
    | some address => Device.openRadio address
    | none => Device.openAny

/-- Runs a subcommand that talks to a brick. A failure to close changes neither the report nor the
exit code; all that comes of it is a line of the log. -/
def BrickCommand.run (command : BrickCommand) (target : Target) (format : OutputFormat) :
    Act Host Failure String := fun host =>
  match target.connect host with
  | (.error e, host) => (.error (.ofCommand "connect failed" e), host)
  | (.ok device, host) =>
    match command.report (Connection.overDevice device host) with
    | (result, connection) =>
      (result.map fun report => report.render format ++ "\n", connection.drop.backend.2)

/-- Runs a subcommand on a host. -/
def Subcommand.run (command : Subcommand) (target : Target) (format : OutputFormat) :
    Act Host Failure String :=
  match command with
  | .version extended => pure (versionText extended)
  | .brick command => command.run target format

/-- Runs an invocation on a host. -/
def Invocation.run (invocation : Invocation) (terminal : Bool) (host : Host) : Outcome × Host :=
  let format := invocation.format.getD (.default terminal)
  match invocation.command.run invocation.target format host with
  | (result, host) => (.of result, host)

/-- What is printed for a command line that is not run. -/
def usageText : UsageError → String
  | .help | .nothingGiven =>
    "Usage: nxtlink [OPTIONS] <COMMAND>\n\nCommands: "
      ++ ", ".intercalate (subcommandLevels.map Prod.fst) ++ "\n"
  | .version => "nxtlink " ++ versionNumber ++ "\n"
  | _ => "error: the command line is not valid; see nxtlink --help\n"

/-- The outcome of a command line that is not run. What was asked for is printed, and mistakes are
told on the error output. -/
def Outcome.notRun (mistake : UsageError) : Outcome :=
  if mistake.exitCode = 0 then ⟨mistake.exitCode, usageText mistake, ""⟩
  else ⟨mistake.exitCode, "", usageText mistake⟩

/-- Reads a command line, and runs on a host what it asks for. -/
def execute (environment : Option String) (line : List String) (terminal : Bool) (host : Host) :
    Outcome × Host :=
  match parse environment line with
  | .error mistake => (.notRun mistake, host)
  | .ok invocation => invocation.run terminal host

end BrickControl.CommandLine
