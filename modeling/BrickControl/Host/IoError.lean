import BrickControl.Host.Errno

/-!
# Input and output errors

An error is a number from the system, a bare kind, or a kind with a text of its own.
-/
namespace BrickControl

/-- An error met during input or output. -/
inductive IoError where
  | system (errno : Errno)
  | bare (kind : IoKind)
  | described (kind : IoKind) (text : String)
  deriving DecidableEq, Repr

namespace IoError

/-- The kind of an error. -/
def kind : IoError → IoKind
  | .system errno => errno.kind
  | .bare kind => kind
  | .described kind _ => kind

/-- The text of an error. Numbers from the system are named after their text. -/
def message : IoError → String
  | .system errno => errno.text ++ " (os error " ++ toString errno.code ++ ")"
  | .bare kind => kind.text
  | .described _ text => text

end IoError
end BrickControl
