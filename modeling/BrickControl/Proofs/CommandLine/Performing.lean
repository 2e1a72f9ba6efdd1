import BrickControl.CommandLine.Run
import BrickControl.Proofs.CommandLine.Arguments
import BrickControl.Proofs.Session.Failures

/-!
# What a subcommand performs

A subcommand performs one operation, or none where what it was given is rejected. What it prints and
how it exits follows from the failure of that operation alone.
-/
namespace BrickControl.CommandLine

namespace BrickCommand

/-- The operation of a subcommand, or why there is none. -/
def operation : BrickCommand → Except Failure Operation
  | .battery => .ok (.plain .getBatteryLevel)
  | .keepalive => .ok (.plain .keepAlive)
  | .tone frequency duration => .ok (.plain (.playTone frequency duration))
  | .start name =>
    match checkFilename name with
    | .ok () => .ok (.plain (.startProgram name))
    | .error e => .error (.ofCommand "start" e)
  | .stop => .ok (.plain .stopProgram)
  | .program => .ok (.plain .getCurrentProgramName)
  | .sendMessage inbox raw text =>
    match encodeMessage text raw with
    | .ok data => .ok (.plain (.messageWrite inbox data))
    | .error failure => .error failure
  | .readMessage remote inbox keep =>
    .ok (.messageRead remote inbox (!keep) (List.replicate Limits.messageLength 0))
  | .output port => .ok (.plain (.getOutputState port))
  | .input number =>
    match InputPort.ofByte (UInt8.ofNat (number.toNat - 1)) with
    | .ok port => .ok (.plain (.getInputValues port))
    | .error e => .error ⟨ExitCode.usage, "input: " ++ e.message⟩

/-- A name or a text that the brick has no room for, or a name that ends too early. -/
inductive Rejected : BrickCommand → Prop where
  | name {name : String} (bad : 0 ∈ Text.Utf8.encode name ∨
      Limits.filenameLength < (Text.Utf8.encode name).length) : Rejected (.start name)
  | text {inbox : UInt8} {raw : Bool} {text : String}
      (long : Limits.messageLength < (Text.Utf8.encode text).length + if raw then 0 else 1) :
      Rejected (.sendMessage inbox raw text)

/-- What comes of an operation that fails like this, if it fails: no running program is an answer of
its own. -/
inductive Tells (command : BrickCommand) : Option CommandError → Except Failure Report → Prop where
  | success (report : Report) : Tells command none (.ok report)
  | idle (asked : command = .program) (report : Report) :
      Tells command (some (.device .noActiveProgram)) (.ok report)
  | failure (context : String) {e : CommandError}
      (unusual : ¬ (command = .program ∧ e = .device .noActiveProgram)) :
      Tells command (some e) (.error (.ofCommand context e))

end BrickCommand

/-- A message with its end. -/
def ended (text : String) (raw : Bool) : Bytes :=
  Text.Utf8.encode text ++ if raw then [] else [0]

theorem length_ended (text : String) (raw : Bool) :
    (ended text raw).length = (Text.Utf8.encode text).length + if raw then 0 else 1 := by
  cases raw with
  | true => simp [ended]
  | false => simp [ended]

theorem encodeMessage_fits {text : String} {raw : Bool}
    (fits : (ended text raw).length ≤ Limits.messageLength) :
    encodeMessage text raw = .ok (ended text raw) := by
  have enough := Nat.not_lt.mpr fits
  cases raw with
  | true => simpa [encodeMessage, ended] using enough
  | false => simpa [encodeMessage, ended] using enough

theorem encodeMessage_long {text : String} {raw : Bool}
    (long : Limits.messageLength < (ended text raw).length) :
    ∃ message, encodeMessage text raw = .error ⟨ExitCode.usage, message⟩ := by
  cases raw with
  | true =>
    simp only [ended, if_true, List.append_nil] at long
    exact ⟨_, if_pos long⟩
  | false => exact ⟨_, if_pos long⟩

private theorem checkFilename_fits {name : String} (checked : checkFilename name = .ok ()) :
    ¬ (0 ∈ Text.Utf8.encode name ∨
      Limits.filenameLength < (Text.Utf8.encode name).length) := by
  simp only [checkFilename] at checked
  split at checked
  · cases checked
  next whole =>
    split at checked
    · cases checked
    next short =>
      rintro (ends | long)
      · exact whole (List.contains_iff_mem.mpr ends)
      · exact short long

theorem checkFilename_bad {name : String} {e : CommandError}
    (rejected : checkFilename name = .error e) : ExitCode.ofCommand e = ExitCode.usage ∧
      (0 ∈ Text.Utf8.encode name ∨
        Limits.filenameLength < (Text.Utf8.encode name).length) := by
  simp only [checkFilename] at rejected
  split at rejected
  next ends =>
    cases rejected
    exact ⟨rfl, .inl (List.contains_iff_mem.mp ends)⟩
  next =>
    split at rejected
    next long =>
      cases rejected
      exact ⟨rfl, .inr long⟩
    next => cases rejected

namespace BrickCommand

variable {command : BrickCommand} {operation : Operation}

/-- Where an argument is rejected there is no operation, and that is the fault of the user. -/
theorem Rejected.no_operation (rejected : command.Rejected) :
    ∃ failure, command.operation = .error failure ∧ failure.code = ExitCode.usage := by
  cases rejected with
  | @name name bad =>
    simp only [BrickCommand.operation]
    cases checked : checkFilename name with
    | ok => exact absurd bad (checkFilename_fits checked)
    | error e => exact ⟨_, rfl, (checkFilename_bad checked).1⟩
  | @text inbox raw text long =>
    rw [← length_ended] at long
    obtain ⟨message, encoded⟩ := encodeMessage_long long
    simp only [BrickCommand.operation, encoded]
    exact ⟨_, rfl, rfl⟩

/-- A text that is not rejected fits into a mailbox. -/
theorem length_ended_le {inbox : UInt8} {raw : Bool} {text : String}
    (good : ¬ Rejected (.sendMessage inbox raw text)) :
    (ended text raw).length ≤ Limits.messageLength := by
  refine Nat.not_lt.mp fun long => good (.text ?_)
  rwa [← length_ended]

/-- Otherwise there is one, and its arguments are accepted. -/
theorem operation_accepted (inRange : command.InRange) (good : ¬ command.Rejected) :
    ∃ operation, command.operation = .ok operation ∧ operation.command.check = .ok () ∧
      operation.command.opcode ≠ .lsGetStatus := by
  cases command with
  -- A name is checked when the operation is made, numbers when the line is read.
  | start name =>
    simp only [BrickCommand.operation]
    cases checked : checkFilename name with
    | ok => exact ⟨_, rfl, checked, by rintro ⟨⟩⟩
    | error e => exact absurd (.name (checkFilename_bad checked).2) good
  | sendMessage inbox raw text =>
    have fits := length_ended_le good
    have within : ¬ inbox > Limits.lastInbox := UInt8.not_lt.mpr inRange
    simp only [BrickCommand.operation, encodeMessage_fits fits]
    refine ⟨_, rfl, ?_, by rintro ⟨⟩⟩
    simp only [Operation.command, Command.check, if_neg within, if_neg (Nat.not_lt.mpr fits)]
  | readMessage remote inbox keep =>
    have outer : ¬ remote > Limits.lastRemoteInbox := UInt8.not_lt.mpr inRange.1
    have inner : ¬ inbox > Limits.lastInbox := UInt8.not_lt.mpr inRange.2
    refine ⟨_, rfl, ?_, by rintro ⟨⟩⟩
    simp only [Operation.command, Command.check, if_neg outer, if_neg inner]
  | input number =>
    obtain ⟨low, high⟩ := inRange
    rw [UInt8.le_iff_toNat_le] at low high
    have known : ∃ port, InputPort.ofByte (UInt8.ofNat (number.toNat - 1)) = .ok port := by
      -- Each of the four numbers names a port.
      have few : number.toNat - 1 = 0 ∨ number.toNat - 1 = 1 ∨ number.toNat - 1 = 2 ∨
          number.toNat - 1 = 3 := by
        simp only [UInt8.reduceToNat] at low high
        omega
      rcases few with same | same | same | same
      all_goals
        rw [same]
        exact ⟨_, rfl⟩
    obtain ⟨port, known⟩ := known
    simp only [BrickCommand.operation, known]
    exact ⟨_, rfl, rfl, by rintro ⟨⟩⟩
  | _ => exact ⟨_, rfl, rfl, by rintro ⟨⟩⟩

end BrickCommand

section

variable {σ : Type} [Backend σ] {command : BrickCommand} {operation : Operation}

theorem performing_run_error {context : String} {performed : Command} {e : CommandError}
    {connection after : Connection σ}
    (failed : Connection.perform performed connection = (.error e, after))
    {α : Type} (next : performed.Answer → Act (Connection σ) Failure α) :
    (performing context performed >>= next).run connection =
      (.error (.ofCommand context e), after) :=
  Act.bind_run_error (Act.mapError_run_error _ failed) next

theorem performing_run_ok {context : String} {performed : Command} {answer : performed.Answer}
    {connection after : Connection σ}
    (ended : Connection.perform performed connection = (.ok answer, after))
    {α : Type} (next : performed.Answer → Act (Connection σ) Failure α) :
    (performing context performed >>= next).run connection = (next answer).run after :=
  Act.bind_run_ok (Act.mapError_run_ok _ ended) next

/-- Without an operation the connection is not used. -/
theorem report_refused {failure : Failure} (refused : command.operation = .error failure)
    (connection : Connection σ) : command.report connection = (.error failure, connection) := by
  cases command with
  | start name =>
    simp only [BrickCommand.operation] at refused
    split at refused
    next => cases refused
    next e checked =>
      cases refused
      have stopped : Connection.perform (.startProgram name) connection = (.error e, connection) :=
        Connection.perform_refused checked
      exact performing_run_error stopped _
  | sendMessage inbox raw text =>
    simp only [BrickCommand.operation] at refused
    split at refused
    next => cases refused
    next failure' rejected =>
      cases refused
      exact Act.bind_run_error (congrArg (·, connection) rejected) _
  | input number =>
    simp only [BrickCommand.operation] at refused
    split at refused
    next => cases refused
    next e rejected =>
      cases refused
      refine Act.bind_run_error (Act.mapError_run_error _ ?_) _
      exact congrArg (·, connection) rejected
  | _ => cases refused

private theorem performing_tells (command : BrickCommand) (other : command ≠ .program)
    (context : String)
    (performed : Command) (tell : performed.Answer → Report) (connection : Connection σ) :
    let ended := (performing context performed >>= fun answer => pure (tell answer)).run connection
    ended.2 = ((Operation.plain performed).perform connection).2 ∧
      command.Tells ((Operation.plain performed).perform connection).1.error? ended.1 := by
  simp only [Operation.perform]
  cases ended : Connection.perform performed connection with
  | mk outcome after =>
    cases outcome with
    | error e =>
      rw [performing_run_error ended]
      exact ⟨rfl, .failure context fun idle => other idle.1⟩
    | ok answer =>
      rw [performing_run_ok ended]
      exact ⟨rfl, .success _⟩

private theorem runningProgram_tells (connection : Connection σ) :
    let performed := (Operation.plain .getCurrentProgramName).perform connection
    (runningProgram connection).2 = performed.2 ∧
      BrickCommand.program.Tells performed.1.error? (runningProgram connection).1 := by
  simp only [runningProgram, Operation.perform]
  rcases Connection.perform .getCurrentProgramName connection with ⟨e | name, after⟩
  · -- This one failure is reported as an answer.
    by_cases idle : e = .device .noActiveProgram
    · subst idle
      exact ⟨rfl, .idle rfl _⟩
    · simp only
      exact ⟨trivial, .failure _ fun same => idle same.2⟩
  · exact ⟨rfl, .success _⟩

private theorem readMailbox_tells (remote inbox : UInt8) (keep : Bool) (connection : Connection σ) :
    let performed := (Operation.messageRead remote inbox (!keep)
      (List.replicate Limits.messageLength 0)).perform connection
    (readMailbox remote inbox keep connection).2 = performed.2 ∧
      (BrickCommand.readMessage remote inbox keep).Tells performed.1.error?
        (readMailbox remote inbox keep connection).1 := by
  simp only [readMailbox, Operation.perform]
  rcases Connection.messageRead remote inbox (!keep) (List.replicate Limits.messageLength 0)
    connection with ⟨⟨e | length, held⟩, after⟩
  · exact ⟨rfl, .failure _ (by rintro ⟨⟨⟩, _⟩)⟩
  · exact ⟨rfl, .success _⟩

/-- A subcommand does to the connection what its operation does, and tells what came of it. -/
theorem report_performs (one : command.operation = .ok operation) (connection : Connection σ) :
    (command.report connection).2 = (operation.perform connection).2 ∧
      command.Tells (operation.perform connection).1.error? (command.report connection).1 := by
  cases command with
  | battery =>
    cases one
    exact performing_tells .battery nofun _ _ _ connection
  | keepalive =>
    cases one
    exact performing_tells .keepalive nofun _ _ _ connection
  | tone frequency duration =>
    cases one
    exact performing_tells (.tone frequency duration) nofun _ _ _ connection
  | start name =>
    simp only [BrickCommand.operation] at one
    split at one
    · cases one
      exact performing_tells (.start name) nofun _ _ _ connection
    · cases one
  | stop =>
    cases one
    exact performing_tells .stop nofun _ _ _ connection
  | program =>
    cases one
    exact runningProgram_tells connection
  | sendMessage inbox raw text =>
    simp only [BrickCommand.operation] at one
    split at one
    next data encoded =>
      cases one
      -- The message is built before the connection is used.
      have built : (Act.ofExcept (encodeMessage text raw) : Act (Connection σ) Failure _).run
          connection = (.ok data, connection) := congrArg (·, connection) encoded
      have whole : (BrickCommand.sendMessage inbox raw text).report connection = _ :=
        Act.bind_run_ok built _
      rw [whole]
      exact performing_tells (.sendMessage inbox raw text) nofun _ _ _ connection
    next => cases one
  | readMessage remote inbox keep =>
    cases one
    exact readMailbox_tells remote inbox keep connection
  | output port =>
    cases one
    exact performing_tells (.output port) nofun _ _ _ connection
  | input number =>
    simp only [BrickCommand.operation] at one
    split at one
    next port known =>
      cases one
      have built : ((Act.ofExcept (InputPort.ofByte (UInt8.ofNat (number.toNat - 1)))).mapError
          fun e => Failure.mk ExitCode.usage ("input: " ++ e.message) :
          Act (Connection σ) Failure _).run connection = (.ok port, connection) :=
        Act.mapError_run_ok _ (congrArg (·, connection) known)
      have whole : (BrickCommand.input number).report connection = _ := Act.bind_run_ok built _
      rw [whole]
      exact performing_tells (.input number) nofun _ _ _ connection
    next => cases one

end

/-! ### Exit codes -/

/-- What was received is not what was to be received. -/
inductive Malformed : CommandError → Prop where
  | framing (violation : FramingViolation) : Malformed (.framing violation)
  | portMismatch (expected actual : UInt8) : Malformed (.portMismatch expected actual)
  | bufferTooSmall (needed available : Nat) : Malformed (.bufferTooSmall needed available)

/-- The failures of an accepted command on an open connection. -/
inductive Late : CommandError → Prop where
  | transport {cause : TransportError} (opened : cause ≠ .closed) : Late (.ofTransport cause)
  | device (status : DeviceStatus) : Late (.device status)
  | malformed {e : CommandError} (malformed : Malformed e) : Late e

namespace ExitCode

theorem ofTransport_cases (cause : TransportError) :
    ofTransport cause = transport ∨ ofTransport cause = timeout := by
  cases cause with
  | io cause => exact (ite_eq_or_eq _ _ _).symm
  | connect address cause => exact (ite_eq_or_eq _ _ _).symm
  | _ => exact .inl rfl

/-- On an open connection a failure of the transport keeps its exit code as the failure of a
command. -/
private theorem ofCommand_transport {cause : TransportError} (opened : cause ≠ .closed) :
    ofCommand (.ofTransport cause) = transport ∨ ofCommand (.ofTransport cause) = timeout := by
  cases cause with
  | closed => exact absurd rfl opened
  | unsupported backend => exact .inl rfl
  | io cause => exact ofTransport_cases (.io cause)
  | connect address cause => exact ofTransport_cases (.connect address cause)
  | _ => exact .inl rfl

private theorem ofCommand_malformed {e : CommandError} (malformed : Malformed e) :
    ofCommand e = failure := by
  cases malformed with
  | framing => rfl
  | portMismatch => rfl
  | bufferTooSmall => rfl

end ExitCode

private theorem not_malformed {cause : TransportError} : ¬ Malformed (.ofTransport cause) := by
  cases cause <;> nofun

/-- The exit code tells the layers apart. -/
theorem Late.exitCode {e : CommandError} (late : Late e) :
    (ExitCode.ofCommand e = ExitCode.device ∧ (∃ status, e = .device status) ∧ ¬ Malformed e) ∨
    (ExitCode.ofCommand e = ExitCode.failure ∧ (¬ ∃ status, e = .device status) ∧ Malformed e) ∨
    ((ExitCode.ofCommand e = ExitCode.transport ∨ ExitCode.ofCommand e = ExitCode.timeout) ∧
      (¬ ∃ status, e = .device status) ∧ ¬ Malformed e) := by
  cases late with
  | @transport cause opened =>
    refine .inr (.inr ⟨ExitCode.ofCommand_transport opened, ?_, not_malformed⟩)
    -- No failure of a transport is a status of the brick.
    rintro ⟨status, same⟩
    have below : (CommandError.ofTransport cause).FromBelow := fromBelow_ofFrame (.transport cause)
    rw [same] at below
    cases below
  | device status => exact .inl ⟨rfl, ⟨status, rfl⟩, nofun⟩
  | malformed malformed =>
    refine .inr (.inl ⟨ExitCode.ofCommand_malformed malformed, ?_, malformed⟩)
    rintro ⟨status, rfl⟩
    cases malformed

end BrickControl.CommandLine
