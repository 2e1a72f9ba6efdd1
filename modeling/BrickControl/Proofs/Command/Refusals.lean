import BrickControl.Command

/-!
# Refused arguments

The arguments that are outside the limits of their commands, each with the failure that it leads to.
Where two arguments of a command are bad the first one counts. `check_error_iff` says that these are
the arguments a command is refused for, and that it is refused for nothing else.
-/
namespace BrickControl

/-- The failure is about an argument. -/
def CommandError.ofArgument : CommandError → Bool
  | .invalidArgument _ | .filenameTooLong _ _ => true
  | _ => false

/-- File names that are refused. A name with a zero byte is refused for it, however long it is. -/
inductive RefusedName (name : String) : CommandError → Prop where
  | zero (inside : 0 ∈ Text.Utf8.encode name) :
      RefusedName name (.invalidArgument "filename contains a NUL byte")
  | long (clean : 0 ∉ Text.Utf8.encode name) (long : 18 < (Text.Utf8.encode name).length) :
      RefusedName name (.filenameTooLong (Text.Utf8.encode name).length 18)

/-- Commands with arguments that are refused. -/
inductive Command.Refused : Command → CommandError → Prop where
  | program {name : String} {e : CommandError} (bad : RefusedName name e) :
      Refused (.startProgram name) e
  | soundFile {looped : Bool} {name : String} {e : CommandError} (bad : RefusedName name e) :
      Refused (.playSoundFile looped name) e
  | inbox {inbox : UInt8} {data : Bytes} (bad : 9 < inbox) :
      Refused (.messageWrite inbox data) (.invalidArgument "mailbox index must be 0 to 9")
  | message {inbox : UInt8} {data : Bytes} (good : ¬9 < inbox) (long : 59 < data.length) :
      Refused (.messageWrite inbox data) (.invalidArgument "message longer than 59 bytes")
  | transmitted {port : InputPort} {data : Bytes} {replyLength : UInt8} (long : 16 < data.length) :
      Refused (.lsWrite port data replyLength)
        (.invalidArgument "low-speed transmit data longer than 16 bytes")
  | awaited {port : InputPort} {data : Bytes} {replyLength : UInt8} (short : ¬16 < data.length)
      (long : 16 < replyLength.toNat) :
      Refused (.lsWrite port data replyLength)
        (.invalidArgument "low-speed receive length above 16 bytes")
  | remoteInbox {remote inbox : UInt8} {remove : Bool} (bad : 16 < remote) :
      Refused (.messageRead remote inbox remove)
        (.invalidArgument "remote mailbox index must be 0 to 16")
  | localInbox {remote inbox : UInt8} {remove : Bool} (good : ¬16 < remote) (bad : 9 < inbox) :
      Refused (.messageRead remote inbox remove)
        (.invalidArgument "local mailbox index must be 0 to 9")

/-- Of two reasons in a row the first one that holds counts. -/
theorem refusals_error_iff {p q : Prop} [Decidable p] [Decidable q]
    {first second e : CommandError} :
    (if p then .error first else if q then .error second else .ok () : Except CommandError Unit) =
      .error e ↔ (p ∧ e = first) ∨ (¬p ∧ q ∧ e = second) := by
  by_cases hp : p
  · simp [hp, eq_comm]
  · by_cases hq : q
    · simp [hp, hq, eq_comm]
    · simp [hp, hq]

/-- A file name is refused for a zero byte or for its length, in this order. -/
private theorem checkFilename_error_iff (name : String) (e : CommandError) :
    checkFilename name = .error e ↔ RefusedName name e := by
  rw [checkFilename, refusals_error_iff, List.contains_iff_mem]
  constructor
  · rintro (⟨inside, rfl⟩ | ⟨clean, long, rfl⟩)
    · exact .zero inside
    · exact .long clean long
  · intro refused
    cases refused with
    | zero inside => exact .inl ⟨inside, rfl⟩
    | long clean long => exact .inr ⟨clean, long, rfl⟩

namespace Command

/-- A command is refused for exactly these arguments. -/
theorem check_error_iff (command : Command) (e : CommandError) :
    command.check = .error e ↔ command.Refused e := by
  cases command with
  | startProgram name =>
    rw [check, checkFilename_error_iff]
    constructor
    · exact .program
    · intro refused
      cases refused with
      | program bad => exact bad
  | playSoundFile looped name =>
    rw [check, checkFilename_error_iff]
    constructor
    · exact .soundFile
    · intro refused
      cases refused with
      | soundFile bad => exact bad
  -- Two arguments are looked at one after the other, here and in what follows.
  | messageWrite inbox data =>
    rw [check, refusals_error_iff]
    constructor
    · rintro (⟨bad, rfl⟩ | ⟨good, long, rfl⟩)
      · exact .inbox bad
      · exact .message good long
    · intro refused
      cases refused with
      | inbox bad => exact .inl ⟨bad, rfl⟩
      | message good long => exact .inr ⟨good, long, rfl⟩
  | lsWrite port data replyLength =>
    rw [check, refusals_error_iff]
    constructor
    · rintro (⟨long, rfl⟩ | ⟨short, long, rfl⟩)
      · exact .transmitted long
      · exact .awaited short long
    · intro refused
      cases refused with
      | transmitted long => exact .inl ⟨long, rfl⟩
      | awaited short long => exact .inr ⟨short, long, rfl⟩
  | messageRead remote inbox remove =>
    rw [check, refusals_error_iff]
    constructor
    · rintro (⟨bad, rfl⟩ | ⟨good, bad, rfl⟩)
      · exact .remoteInbox bad
      · exact .localInbox good bad
    · intro refused
      cases refused with
      | remoteInbox bad => exact .inl ⟨bad, rfl⟩
      | localInbox good bad => exact .inr ⟨good, bad, rfl⟩
  | _ =>
    -- The arguments of the other commands cannot be bad.
    constructor
    · rintro ⟨⟩
    · rintro ⟨⟩

/-- What a command is refused for is said of an argument. -/
theorem Refused.ofArgument {command : Command} {e : CommandError} (refused : command.Refused e) :
    e.ofArgument = true := by
  have name {name : String} (bad : RefusedName name e) : e.ofArgument = true := by
    cases bad with
    | zero => rfl
    | long => rfl
  cases refused with
  | program bad => exact name bad
  | soundFile bad => exact name bad
  | _ => rfl

end Command
end BrickControl
