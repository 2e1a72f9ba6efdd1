import BrickControl.CommandError

/-!
# Exit codes

The exit code of the program tells which layer failed, and timeouts have a code of their own.
-/
namespace BrickControl.CommandLine

namespace ExitCode

def success : Nat := 0
def failure : Nat := 1
def transport : Nat := 3
def device : Nat := 60
def usage : Nat := 64
def timeout : Nat := 124
def internal : Nat := 125

/-- The exit code of a transport error. The system's timeouts count as timeouts where a system call
on a link or the connection itself failed. -/
def ofTransport : TransportError → Nat
  | .io cause | .connect _ cause =>
    if cause.kind = .timedOut ∨ cause.kind = .wouldBlock then timeout else transport
  | _ => transport

/-- The exit code of a failed command. -/
def ofCommand : CommandError → Nat
  | .transport cause | .cannotConnect cause => ofTransport cause
  | .backendUnavailable _ => transport
  | .device _ => device
  | .invalidArgument _ | .filenameTooLong _ _ => usage
  | .timeout _ => timeout
  | .framing _ | .bufferTooSmall _ _ | .portMismatch _ _ => failure
  | .entityClosed => internal

end ExitCode

/-- Why the program ends without success. -/
structure Failure where
  code : Nat
  message : String
  deriving DecidableEq, Repr

/-- A failed command, with what the program was doing before its text. -/
def Failure.ofCommand (context : String) (error : CommandError) : Failure :=
  ⟨ExitCode.ofCommand error, context ++ ": " ++ error.message⟩

end BrickControl.CommandLine
