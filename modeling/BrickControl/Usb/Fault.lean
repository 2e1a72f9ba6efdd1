/-!
# USB faults

The result codes of the USB stack. Zero is success; each negative code down to -12 has a meaning
of its own and all other codes share one.
-/
namespace BrickControl.Usb

/-- What the USB stack can report instead of success. -/
inductive Fault where
  | inputOutput
  | invalidParameter
  | accessDenied
  | noDevice
  | notFound
  | busy
  | timedOut
  | overflow
  | pipe
  | interrupted
  | noMemory
  | notSupported
  | badDescriptor
  | other
  deriving DecidableEq, Repr

namespace Fault

/-- The fault behind a result code that is not zero. -/
def ofCode (code : Int) : Fault :=
  if code = -1 then .inputOutput
  else if code = -2 then .invalidParameter
  else if code = -3 then .accessDenied
  else if code = -4 then .noDevice
  else if code = -5 then .notFound
  else if code = -6 then .busy
  else if code = -7 then .timedOut
  else if code = -8 then .overflow
  else if code = -9 then .pipe
  else if code = -10 then .interrupted
  else if code = -11 then .noMemory
  else if code = -12 then .notSupported
  else .other

/-- The text of a fault. -/
def message : Fault → String
  | .inputOutput => "Input/Output Error"
  | .invalidParameter => "Invalid parameter"
  | .accessDenied => "Access denied (insufficient permissions)"
  | .noDevice => "No such device (it may have been disconnected)"
  | .notFound => "Entity not found"
  | .busy => "Resource busy"
  | .timedOut => "Operation timed out"
  | .overflow => "Overflow"
  | .pipe => "Pipe error"
  | .interrupted => "System call interrupted (perhaps due to signal)"
  | .noMemory => "Insufficient memory"
  | .notSupported => "Operation not supported or unimplemented on this platform"
  | .badDescriptor => "Malformed descriptor"
  | .other => "Other error"

end Fault
end BrickControl.Usb
