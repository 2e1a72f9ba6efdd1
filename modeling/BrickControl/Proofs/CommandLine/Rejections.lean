import BrickControl.Proofs.CommandLine.ExitCodes
import BrickControl.Proofs.Device.Footprint

/-!
# Rejected arguments

A command line that does not follow the definitions of its arguments ends before the host is used.
The name of a program and the length of a message are looked at later, on an open connection: what
is wrong with them is told only where a brick can be reached, and elsewhere the run ends as any
other run that does not connect. Either way no byte is moved to a brick or from it.
-/
namespace BrickControl

/-- The call moves bytes to a brick or from it. -/
def Call.moves : Call → Bool
  | .send _ _ _ | .receive _ _ _ | .bulkOut _ _ _ _ _ _ | .bulkIn _ _ _ _ _ _ => true
  | _ => false

private theorem Radio.Dials.still {config : Config} {call : Call} (dials : Dials config call) :
    call.moves = false := by
  cases call with
  | send => exact dials.elim
  | receive => exact dials.elim
  | bulkOut => exact dials.elim
  | bulkIn => exact dials.elim
  | _ => rfl

private theorem Usb.Finds.still {vendor product : UInt16} {config : Config} {call : Call}
    (finds : Finds vendor product config call) : call.moves = false := by
  cases call with
  | send => exact finds.elim
  | receive => exact finds.elim
  | bulkOut => exact finds.elim
  | bulkIn => exact finds.elim
  | _ => rfl

private theorem Opening.Dials.still {opening : Opening} {call : Call} (dials : opening.Dials call) :
    call.moves = false := by
  cases opening with
  | radio => exact Radio.Dials.still dials
  | usb => exact Usb.Finds.still dials
  | any => exact dials.elim Radio.Dials.still Usb.Finds.still

/-- Giving a device back moves no byte. -/
theorem Device.Returns.still {device : Device} {call : Call} (returns : device.Returns call) :
    call.moves = false := by
  cases device with
  | radio =>
    cases call with
    | close => rfl
    | _ => exact returns.elim
  | usb =>
    cases call with
    | release => rfl
    | usbClose => rfl
    | _ => exact returns.elim

namespace CommandLine

/-- The way to open a connection that a command line asks for. -/
def Target.opening (target : Target) : Opening :=
  if target.usb then .usb Usb.brickVendor Usb.brickProduct {}
  else match target.address with
    | some address => .radio address {}
    | none => .any

private theorem Target.connect_opening (target : Target) :
    target.opening.connect = target.connect := by
  obtain ⟨address, usb⟩ := target
  cases usb with
  | true => rfl
  | false => cases address <;> rfl

/-- No call that a target is connected with moved a byte. -/
theorem connect_still (target : Target) (start : Host) :
    Host.Since (fun call => call.moves = false) start (target.connect start).2 := by
  rw [← target.connect_opening]
  exact (target.opening.connect_dials start).weaken fun _ => Opening.Dials.still

section

variable {command : BrickCommand} {failure : Failure}

/-- Where there is nothing to perform, a device that was opened is closed at once. -/
theorem run_refused (refused : command.operation = .error failure) (target : Target)
    (format : OutputFormat) {start host : Host} {device : Device}
    (connected : target.connect start = (.ok device, host)) :
    command.run target format start =
      (.error failure, (Backend.close (device, host) : _ × Device × Host).2.2) := by
  simp only [BrickCommand.run, connected, report_refused refused]
  rfl

/-- Without an operation all a run does is to connect and to give the device back. -/
private theorem run_refused_still (refused : command.operation = .error failure) (target : Target)
    (format : OutputFormat) (script : Script) :
    ∀ call ∈ (command.run target format (Host.ofScript script)).2.calls, call.moves = false := by
  suffices since : Host.Since (fun call => call.moves = false) (Host.ofScript script)
      (command.run target format (Host.ofScript script)).2 from since.all
  have dialled := connect_still target (Host.ofScript script)
  cases reached : target.connect (Host.ofScript script) with
  | mk outcome host =>
    rw [reached] at dialled
    cases outcome with
    | error e =>
      simp only [BrickCommand.run, reached]
      exact dialled
    | ok device =>
      -- The device is opened for nothing: all that follows is to give it back.
      obtain ⟨result, shut, after, ended, -, returned⟩ := Device.close_returns device host
      rw [run_refused refused target format reached, ended]
      exact dialled.trans (returned.weaken fun _ => Device.Returns.still)

end

private theorem run_usage {command : BrickCommand} (inRange : command.InRange)
    (good : ¬command.Rejected) (target : Target) (format : OutputFormat) (script : Script) :
    (Outcome.of (command.run target format (Host.ofScript script)).1).exitCode ≠ 64 := by
  cases reached : target.connect (Host.ofScript script) with
  | mk outcome host =>
    cases outcome with
    | error e =>
      rcases run_unconnected command format reached with code | code
      · rw [code]
        decide
      · rw [code]
        decide
    | ok device =>
      obtain ⟨resource, opened⟩ :=
        ((connect_holds target).ok (Host.tidy_ofScript script) reached).opened
      obtain ⟨after, -, run⟩ := run_connected command target format reached
      -- On a device that is open the code of bad usage says that the arguments are rejected.
      obtain ⟨-, usage, -⟩ := opened_exitCode opened inRange host format
      rw [run]
      exact fun code => good (usage.mp code)

private theorem notRun_exitCode (mistake : UsageError) :
    (Outcome.notRun mistake).exitCode = 2 ∨
      (Outcome.notRun mistake).exitCode = 0 ∧ (mistake = .help ∨ mistake = .version) := by
  cases mistake with
  | help => exact .inr ⟨rfl, .inl rfl⟩
  | version => exact .inr ⟨rfl, .inr rfl⟩
  | _ => exact .inl rfl

theorem execute_brick {environment : Option String} {line : List String} {invocation : Invocation}
    {command : BrickCommand} (parsed : parse environment line = .ok invocation)
    (brick : invocation.command = .brick command) (terminal : Bool) (host : Host) :
    execute environment line terminal host =
      (.of (command.run invocation.target (invocation.format.getD (.default terminal)) host).1,
        (command.run invocation.target (invocation.format.getD (.default terminal)) host).2) := by
  simp only [execute, parsed, Invocation.run, brick]
  rfl

/-- Whatever the host answers, a command line that cannot be read ends in the same way, and leaves
the host alone. An argument that is rejected later is a usage error on every host on which the run
connects, the same one, and on no other; no byte is moved on either. All other command lines are no
usage errors. -/
theorem execute_rejections (environment : Option String) (line : List String) (terminal : Bool) :
    (∀ mistake, parse environment line = .error mistake → ∃ outcome : Outcome,
      (outcome.exitCode = 2 ∨ outcome.exitCode = 0 ∧ (mistake = .help ∨ mistake = .version)) ∧
      ∀ host, execute environment line terminal host = (outcome, host)) ∧
    ∀ invocation command, parse environment line = .ok invocation →
      invocation.command = .brick command →
      (command.Rejected → ∃ usage : Outcome, usage.exitCode = 64 ∧ ∀ script,
        let reached := invocation.target.connect (Host.ofScript script)
        let ended := execute environment line terminal (Host.ofScript script)
        (∀ device host, reached = (.ok device, host) → ended.1 = usage) ∧
        (∀ e host, reached = (.error e, host) →
          (ended.1.exitCode = 3 ∨ ended.1.exitCode = 124) ∧ ended.2 = host) ∧
        ∀ call ∈ ended.2.calls, call.moves = false) ∧
      (¬command.Rejected → ∀ script,
        (execute environment line terminal (Host.ofScript script)).1.exitCode ≠ 64) := by
  refine ⟨fun mistake unread => ?_, fun invocation command parsed brick => ?_⟩
  · refine ⟨.notRun mistake, notRun_exitCode mistake, fun host => ?_⟩
    simp only [execute, unread]
  · have whole := execute_brick parsed brick terminal
    refine ⟨fun rejected => ?_, fun good script => ?_⟩
    · obtain ⟨failure, refused, usage⟩ := rejected.no_operation
      -- The failure comes from the arguments alone, so it is the same one for every script.
      refine ⟨.of (.error failure), usage, fun script => ?_⟩
      intro reached ended
      simp only [ended, whole]
      refine ⟨fun device host connected => ?_, fun e host failed => ⟨?_, ?_⟩,
        run_refused_still refused _ _ script⟩
      · rw [run_refused refused _ _ connected]
      · exact run_unconnected command _ failed
      · simp only [BrickCommand.run, show invocation.target.connect _ = _ from failed]
    · -- What is not rejected is within its ranges, since the line was accepted.
      rw [whole]
      exact run_usage (parse_inRange parsed brick) good _ _ script

theorem rejected_name : BrickCommand.Rejected (.start "a-very-long-name.rxe") :=
  .name (.inr (by decide))

/-- The name is too long for every brick that is reached, and the run tells so; a number that is
none is told without one. -/
theorem execute_rejections_reached :
    let line := ["--usb", "start", "a-very-long-name.rxe"]
    (∃ usage : Outcome, usage.exitCode = 64 ∧
      (execute none line true (Host.ofScript {})).1 = usage ∧
      (execute none line true (Host.ofScript { release := [-1, -1] })).1 = usage) ∧
    ∃ outcome : Outcome, outcome.exitCode = 2 ∧
      ∀ host, execute none ["tone", "--frequency", "loud"] true host = (outcome, host) := by
  intro line
  let asked : Invocation :=
    ⟨⟨none, true⟩, none, .text, .warn, .brick (.start "a-very-long-name.rxe")⟩
  have parsed : parse none line = .ok asked := rfl
  -- Whether a run connects can be looked up, the device that it connects to need not be named.
  have connects (script : Script) (there : (asked.target.connect (Host.ofScript script)).1.isOk) :
      ∃ device host, asked.target.connect (Host.ofScript script) = (.ok device, host) := by
    cases reached : asked.target.connect (Host.ofScript script) with
    | mk outcome host =>
      rw [reached] at there
      cases outcome with
      | ok device => exact ⟨device, host, rfl⟩
      | error e => cases there
  obtain ⟨_, accepted⟩ := execute_rejections none line true
  obtain ⟨usage, code, told⟩ := (accepted asked _ parsed rfl).1 rejected_name
  obtain ⟨device, host, reached⟩ := connects {} (by decide +kernel)
  obtain ⟨device', host', reached'⟩ := connects { release := [-1, -1] } (by decide +kernel)
  obtain ⟨unread, _⟩ := execute_rejections none ["tone", "--frequency", "loud"] true
  obtain ⟨outcome, ended, same⟩ := unread .rejectedValue rfl
  refine ⟨⟨usage, code, (told {}).1 device host reached,
    (told { release := [-1, -1] }).1 device' host' reached'⟩, outcome, ?_, same⟩
  exact ended.resolve_right (by simp)

/-- With the same arguments a run without a brick ends as any other run without one, after a call on
the host. -/
theorem bad_name_unreported :
    let line := ["--usb", "start", "a-very-long-name.rxe"]
    let without := execute none line true (Host.ofScript { usbOpen := [false] })
    BrickCommand.Rejected (.start "a-very-long-name.rxe") ∧
    parse none line =
      .ok ⟨⟨none, true⟩, none, .text, .warn, .brick (.start "a-very-long-name.rxe")⟩ ∧
    without.1.exitCode = 3 ∧ without.2.calls.length = 1 ∧
    (execute none line true (Host.ofScript {})).1.exitCode = 64 :=
  ⟨rejected_name, rfl, by decide +kernel, by decide +kernel, by decide +kernel⟩

end CommandLine
end BrickControl
