import BrickControl.Proofs.CommandLine.ExitCodes

/-!
# Timeouts

A timeout comes from the system or from the USB stack, while a link is made or on an open link. The
exit code of timeouts is kept for those that the system reports on a link or on the call that makes
it; a timeout of the USB stack, or of the search for a peer, exits as any other failure of the
transport.
-/
namespace BrickControl

/-- The failure is a timeout, from whatever side and at whatever step. -/
inductive TransportError.TimedOut : TransportError → Prop where
  | io {cause : IoError} (late : cause.kind = .timedOut ∨ cause.kind = .wouldBlock) :
      TimedOut (.io cause)
  | connect (address : String) {cause : IoError}
      (late : cause.kind = .timedOut ∨ cause.kind = .wouldBlock) : TimedOut (.connect address cause)
  | discovery {cause : IoError} (late : cause.kind = .timedOut ∨ cause.kind = .wouldBlock) :
      TimedOut (.discovery cause)
  | usb : TimedOut (.usb .timedOut)
  | claim (vendor product : UInt16) : TimedOut (.claim vendor product .timedOut)

/-- The failure is one of a link, or of the call that makes one. -/
def TransportError.OnLink : TransportError → Prop
  | .io _ | .connect _ _ => True
  | _ => False

/-- The failure of the transport behind the failure of a command. -/
def CommandError.below? : CommandError → Option TransportError
  | .transport cause | .cannotConnect cause => some cause
  | _ => none

namespace CommandLine

/-- The error in which connecting ends or, on an open device, the operation of the subcommand. -/
def BrickCommand.fault? (command : BrickCommand) (target : Target) (host : Host) :
    Option CommandError :=
  match target.connect host with
  | (.error e, _) => some e
  | (.ok device, host) =>
    match command.operation with
    | .error _ => none
    | .ok operation => (operation.perform (Connection.overDevice device host)).1.error?

namespace ExitCode

/-- Of the failures of a transport exactly the timeouts of the system on a link have the exit code
of timeouts. -/
private theorem ofTransport_timeout {cause : TransportError} :
    ofTransport cause = 124 ↔ cause.TimedOut ∧ cause.OnLink := by
  constructor
  · intro late
    cases cause with
    | io cause =>
      by_cases timed : cause.kind = .timedOut ∨ cause.kind = .wouldBlock
      · exact ⟨.io timed, trivial⟩
      · simp only [ofTransport, if_neg timed] at late
        cases late
    | connect address cause =>
      by_cases timed : cause.kind = .timedOut ∨ cause.kind = .wouldBlock
      · exact ⟨.connect address timed, trivial⟩
      · simp only [ofTransport, if_neg timed] at late
        cases late
    -- The other failures exit as a transport does, whatever they say of time.
    | _ => cases late
  · rintro ⟨late, onLink⟩
    cases late with
    | io late => exact if_pos late
    | connect address late => exact if_pos late
    | _ => cases onLink

private theorem ofCommand_below {e : CommandError} {cause : TransportError}
    (below : e.below? = some cause) : ofCommand e = ofTransport cause := by
  cases e with
  | transport cause' =>
    cases below
    rfl
  | cannotConnect cause' =>
    cases below
    rfl
  | _ => cases below

/-- A failure with no transport below it does not exit as a timeout, but for the one that is a
timeout itself. -/
private theorem ofCommand_other {e : CommandError} (own : e.below? = none)
    (waited : ∀ after, e ≠ .timeout after) : ofCommand e ≠ 124 := by
  cases e with
  | transport cause => cases own
  | cannotConnect cause => cases own
  | timeout after => exact absurd rfl (waited after)
  | _ => nofun

end ExitCode

/-- How a run ends, by the error of connecting or of the operation. -/
inductive Ended (code : Nat) : Option CommandError → Prop where
  | fine (done : code = 0 ∨ code = 64) : Ended code none
  /-- No program is running, which is an answer. -/
  | idle (done : code = 0) : Ended code (some (.device .noActiveProgram))
  | failed {e : CommandError} (known : ∀ after, e ≠ .timeout after)
      (told : code = ExitCode.ofCommand e) : Ended code (some e)

private theorem Late.not_timeout {e : CommandError} (late : Late e) (after : Duration) :
    e ≠ .timeout after := by
  rintro rfl
  generalize same : CommandError.timeout after = e at late
  cases late with
  | @transport cause =>
    have below : (CommandError.ofTransport cause).FromBelow := fromBelow_ofFrame (.transport cause)
    rw [← same] at below
    cases below
  | device => cases same
  | malformed malformed => cases malformed <;> cases same

private theorem run_ended {command : BrickCommand} (inRange : command.InRange) (target : Target)
    (format : OutputFormat) (script : Script) :
    Ended (Outcome.of (command.run target format (Host.ofScript script)).1).exitCode
      (command.fault? target (Host.ofScript script)) := by
  rcases reached : target.connect (Host.ofScript script) with ⟨e | device, host⟩
  · obtain ⟨cause, _, rfl⟩ := connect_unconnected target _ e host reached
    simp only [BrickCommand.fault?, BrickCommand.run, reached]
    exact .failed (by rintro _ ⟨⟩) rfl
  · obtain ⟨resource, opened⟩ :=
      ((connect_holds target).ok (Host.tidy_ofScript script) reached).opened
    obtain ⟨after, -, run⟩ := run_connected command target format reached
    simp only [BrickCommand.fault?, run, reached]
    -- A rejected argument has no operation; else the error of the operation decides.
    by_cases rejected : command.Rejected
    · obtain ⟨failure, refused, -⟩ := rejected.no_operation
      rw [refused]
      exact .fine (.inr (report_rejected rejected _ format).2)
    · obtain ⟨operation, one, accepted, -⟩ := command.operation_accepted inRange rejected
      have late := @perform_opened device resource opened command operation one accepted host
      have tells := (report_performs one (Connection.overDevice device host)).2
      rw [one]
      dsimp only
      generalize (operation.perform (Connection.overDevice device host)).1.error? = failed
        at late tells
      generalize (command.report (Connection.overDevice device host)).1 = told at tells
      cases tells with
      | success report => exact .fine (.inl rfl)
      | idle asked report => exact .idle rfl
      | failure context unusual => exact .failed (late rfl).not_timeout rfl

/-- A run exits with the code of timeouts exactly if the system reported a timeout on a link or on
the call that makes it. A timeout of the USB stack or of the search for a peer exits as a failure of
the transport. -/
theorem run_timeouts {environment : Option String} {line : List String} {invocation : Invocation}
    {command : BrickCommand} (parsed : parse environment line = .ok invocation)
    (brick : invocation.command = .brick command) (terminal : Bool) (script : Script) :
    let fault? := command.fault? invocation.target (Host.ofScript script)
    let code := (invocation.run terminal (Host.ofScript script)).1.exitCode
    (code = 124 ↔ ∃ e cause, fault? = some e ∧ e.below? = some cause ∧
      cause.TimedOut ∧ cause.OnLink) ∧
    ∀ e cause, fault? = some e → e.below? = some cause → cause.TimedOut → ¬cause.OnLink →
      code = 3 := by
  intro fault? code
  have ended : Ended code fault? := by
    have whole : (invocation.run terminal (Host.ofScript script)).1 =
        .of (command.run invocation.target (invocation.format.getD (.default terminal))
          (Host.ofScript script)).1 := by
      simp only [Invocation.run, brick]
      rfl
    have ended := run_ended (parse_inRange parsed brick) invocation.target
      (invocation.format.getD (.default terminal)) script
    rwa [← whole] at ended
  -- How the run came to its error does not matter any more.
  clear_value fault? code
  cases ended with
  | fine done =>
    refine ⟨⟨by omega, by rintro ⟨_, _, ⟨⟩, _⟩⟩, by rintro _ _ ⟨⟩⟩
  | idle done =>
    refine ⟨⟨by omega, ?_⟩, ?_⟩
    · rintro ⟨_, _, ⟨⟩, ⟨⟩, _⟩
    · rintro _ _ ⟨⟩ ⟨⟩
  | @failed e known told =>
    subst told
    constructor
    · constructor
      · intro late
        cases below : e.below? with
        | none => exact absurd late (ExitCode.ofCommand_other below known)
        | some cause =>
          rw [ExitCode.ofCommand_below below, ExitCode.ofTransport_timeout] at late
          exact ⟨e, cause, rfl, below, late⟩
      · rintro ⟨_, cause, ⟨⟩, below, late⟩
        rw [ExitCode.ofCommand_below below, ExitCode.ofTransport_timeout]
        exact late
    · -- A failure of the transport has one of two codes, and this one is not on a link.
      rintro _ cause ⟨⟩ below _ away
      rw [ExitCode.ofCommand_below below]
      rcases ExitCode.ofTransport_cases cause with code | code
      · exact code
      · exact absurd (ExitCode.ofTransport_timeout.mp code).2 away

/-- The peer of a radio link does not answer the connect. -/
theorem run_timeouts_radio :
    let script : Script := { connect := [.error ⟨110⟩] }
    let invocation : Invocation :=
      ⟨⟨some "00:16:53:12:5C:67", false⟩, none, .text, .warn, .brick .battery⟩
    parse none ["--address", "00:16:53:12:5C:67", "battery"] = .ok invocation ∧
    (∃ e cause, BrickCommand.battery.fault? invocation.target (Host.ofScript script) = some e ∧
      e.below? = some cause ∧ cause.TimedOut ∧ cause.OnLink) ∧
    (invocation.run true (Host.ofScript script)).1.exitCode = 124 := by
  intro script invocation
  have parsed : parse none ["--address", "00:16:53:12:5C:67", "battery"] = .ok invocation := rfl
  have code : (invocation.run true (Host.ofScript script)).1.exitCode = 124 := by decide +kernel
  exact ⟨parsed, (run_timeouts parsed rfl true script).1.mp code, code⟩

/-- The USB stack reports a timeout while the reply is awaited, and the run does not exit with the
code of timeouts. -/
theorem usb_timeout_exits_otherwise :
    let script : Script := { bulkIn := [⟨-7, []⟩] }
    let invocation : Invocation := ⟨⟨none, true⟩, none, .text, .warn, .brick .battery⟩
    parse none ["--usb", "battery"] = .ok invocation ∧
    BrickCommand.battery.fault? invocation.target (Host.ofScript script) =
      some (.transport (.usb .timedOut)) ∧
    TransportError.TimedOut (.usb .timedOut) ∧
    (invocation.run true (Host.ofScript script)).1.exitCode = 3 :=
  ⟨rfl, by decide +kernel, .usb, by decide +kernel⟩

end CommandLine
end BrickControl
