import BrickControl.CommandLine.Run

/-!
# The program

Reads the command line and the environment, runs what they ask for, and ends with its exit code.
The process has no radio sockets and no USB stack of its own, so every attempt to connect is
answered as on a machine without them.
-/
open BrickControl CommandLine

def main (arguments : List String) : IO UInt32 := do
  let environment ← IO.getEnv "NXTLINK_ADDRESS"
  let output ← IO.getStdout
  let host := Host.ofScript Script.withoutDevices
  let (outcome, _) := execute environment arguments (← output.isTty) host
  IO.print outcome.output
  IO.eprint outcome.errors
  return UInt32.ofNat outcome.exitCode
