import BrickControl.Proofs.CommandLine.Performing
import BrickControl.Proofs.CommandLine.Run
import BrickControl.Proofs.Device.Calls
import BrickControl.Proofs.Device.Closings
import BrickControl.Proofs.Device.Connecting

/-!
# What the exit code tells

The exit code of a run names the layer that failed, and it tells apart what the brick refused, what
it answered in no proper form, and what never left the program. How closing ends has no part in it.
-/
namespace BrickControl.CommandLine

open Host (ButClosing)

/-! ### Connecting and closing -/

private theorem connect_butClosing (target : Target) :
    Act.Alike ButClosing target.connect target.connect := by
  refine .ite (Device.openUsb_alike _ _ _) ?_
  -- With an address there is one transport to try, without one there are two.
  cases target.address with
  | some address => exact Device.openRadio_alike address {}
  | none =>
    exact Device.firstAvailable_alike (Device.openRadio_alike _ _) (Device.openUsb_alike _ _ _)

/-- Whatever target was asked for, connecting fails with a failure to connect. -/
theorem connect_unconnected (target : Target) : target.connect.Blames Device.Unconnected := by
  refine .ite (Device.openUsb_blames _ _ _) ?_
  cases target.address with
  | some address => exact Device.openRadio_blames address {}
  | none => exact Device.firstAvailable_blames (Device.openUsb_blames _ _ _)

/-- No run is told apart from another one by how closing ends. -/
theorem run_butClosing (command : BrickCommand) (target : Target) (format : OutputFormat)
    {one other : Host} (same : ButClosing one other) :
    (command.run target format one).1 = (command.run target format other).1 := by
  obtain ⟨outcome, one', other', left, right, same'⟩ :=
    (connect_butClosing target one other same).split
  simp only [Act.run] at left right
  simp only [BrickCommand.run, left, right]
  cases outcome with
  | error e => rfl
  | ok device =>
    -- Closing comes last, so the report is made on hosts that still differ in nothing else.
    have linked : Connection.Linked Device.Beside device.framing true
        (Connection.overDevice device one') (Connection.overDevice device other') :=
      .intro ⟨rfl, same'⟩
    obtain ⟨result, left', right', ended, ended', _⟩ :=
      (report_alike Device.beside_alike command _ _ linked).split
    simp only [Act.run] at ended ended'
    simp only [ended, ended']

/-- A run that does not connect fails as a transport does. -/
theorem run_unconnected (command : BrickCommand) {target : Target} (format : OutputFormat)
    {start host : Host} {e : CommandError} (failed : target.connect start = (.error e, host)) :
    let code := (Outcome.of (command.run target format start).1).exitCode
    code = 3 ∨ code = 124 := by
  obtain ⟨cause, _, rfl⟩ := connect_unconnected target start e host failed
  simp only [BrickCommand.run, failed]
  exact ExitCode.ofTransport_cases cause

/-- A run that connects makes its report and then closes the device. -/
theorem run_connected (command : BrickCommand) (target : Target) (format : OutputFormat)
    {start host : Host} {device : Device} (connected : target.connect start = (.ok device, host)) :
    ∃ after, device.Working host after ∧ command.run target format start =
      ((command.report (Connection.overDevice device host)).1.map
        (fun report => report.render format ++ "\n"),
        (Backend.close after : _ × Device × Host).2.2) := by
  have working : device.Working host (device, host) := ⟨rfl, .refl _ _⟩
  obtain ⟨result, after, reported, working⟩ :=
    report_keeps (device.working_keeps host) command device.framing true working
  simp only [Act.run] at reported
  refine ⟨after, working, ?_⟩
  simp only [BrickCommand.run, connected, Connection.overDevice, reported]
  rfl

/-! ### The operation on an open device -/

/-- A fresh connection over a device whose calls are written down. -/
def watched (device : Device) (host : Host) : Connection (Journaled (Device × Host)) :=
  ⟨device.framing, true, ⟨(device, host), []⟩⟩

private theorem perform_watched (operation : Operation) (device : Device) (host : Host) :
    (operation.perform (watched device host)).1 =
      (operation.perform (Connection.overDevice device host)).1 := by
  have linked : Connection.Linked Journaled.Keeps device.framing true (watched device host)
      (Connection.overDevice device host) := .intro rfl
  obtain ⟨same, _⟩ := Connection.perform_alike Journaled.keeps_alike operation.command _ _ linked
  rw [operation.perform_eq, operation.perform_eq]
  exact congrArg operation.yield same

/-- An operation with accepted arguments fails for what a call reported or for what was in the
reply. A closed connection is no reason if no call met one. -/
private theorem perform_late {σ : Type} [Backend σ] [Backend.Patient σ] {operation : Operation}
    {framing : Framing} {state : Journaled σ} {e : CommandError}
    (accepted : operation.command.check = .ok ())
    (never : ∀ call ∈ (operation.perform ⟨framing, true, state⟩).2.backend.journal,
      call.reported ≠ .error .closed)
    (failed : (operation.perform ⟨framing, true, state⟩).1.error? = some e) : Late e := by
  obtain ⟨writes, reads, after, left, grown, course⟩ :=
    Connection.perform_course operation.command accepted framing state
  rw [operation.perform_eq] at never failed
  rcases operation.yield_error failed with failed | ⟨needed, available, rfl⟩
  · -- The failure is the one of a call, or the transport has done its part.
    rcases course.caused e failed with ⟨call, member, fault⟩ | own
    · have journaled : call ∈ after.journal := by
        rw [grown]
        exact List.mem_append_right _ member
      rw [left] at never
      obtain ⟨cause, rfl, reported⟩ := Framing.fault_cause fault
      refine .transport ?_
      rintro rfl
      rcases reported with reported | impossible
      · exact never call journaled reported
      · cases impossible
    · -- Nothing below failed, so the reply did.
      cases own with
      | framing violation => exact .malformed (.framing violation)
      | device status => exact .device status
      | portMismatch expected actual => exact .malformed (.portMismatch expected actual)
  · exact .malformed (.bufferTooSmall needed available)

/-- An operation that succeeded, or found no program running, ends in a report. -/
theorem BrickCommand.Tells.report {command : BrickCommand} {failed : Option CommandError}
    {told : Except Failure Report} (tells : command.Tells failed told)
    (succeeded : failed = none ∨ command = .program ∧ failed = some (.device .noActiveProgram)) :
    ∃ report, told = .ok report := by
  cases tells with
  | success report => exact ⟨report, rfl⟩
  | idle asked report => exact ⟨report, rfl⟩
  | failure context unusual =>
    rcases succeeded with impossible | ⟨asked, idle⟩
    · cases impossible
    · exact absurd ⟨asked, Option.some.inj idle⟩ unusual

/-- The exit code of a report, by the failure of its operation. -/
theorem BrickCommand.Tells.exitCode {command : BrickCommand} {failed : Option CommandError}
    {told : Except Failure Report} (tells : command.Tells failed told)
    (late : ∀ e, failed = some e → Late e) (format : OutputFormat) :
    let code := (Outcome.of (told.map fun report => report.render format ++ "\n")).exitCode
    (code = 0 ↔ failed = none ∨ command = .program ∧ failed = some (.device .noActiveProgram)) ∧
    (code = 60 ↔ ∃ refusal, failed = some (.device refusal) ∧
      ¬ (command = .program ∧ refusal = .noActiveProgram)) ∧
    (code = 1 ↔ ∃ e, failed = some e ∧ Malformed e) ∧ code ∈ [0, 1, 3, 60, 124] := by
  intro code
  cases tells with
  | success report =>
    have zero : code = 0 := rfl
    simp [zero]
  | idle asked report =>
    have zero : code = 0 := rfl
    refine ⟨by simp [zero, asked], ?_, ?_, by simp [zero]⟩
    · simp [zero, asked]
    · rw [zero]
      constructor
      · nofun
      · rintro ⟨_, ⟨⟩, impossible⟩
        cases impossible
  | @failure context e unusual =>
    have same : code = ExitCode.ofCommand e := rfl
    have fails : ¬ (some e = none ∨
        command = .program ∧ some e = some (.device .noActiveProgram)) := by
      intro succeeded
      obtain ⟨_, ⟨⟩⟩ := (failure context unusual).report succeeded
    -- Three kinds of failure are left: a refusal, a reply in no proper form and a failure of the
    -- transport.
    rcases (late e rfl).exitCode with ⟨coded, ⟨status, rfl⟩, sound⟩ | ⟨coded, other, malformed⟩ |
      ⟨coded, other, sound⟩
    · have sixty : code = 60 := same.trans coded
      refine ⟨iff_of_false (by simp [sixty]) fails, iff_of_true sixty ⟨status, rfl, ?_⟩,
        iff_of_false (by simp [sixty]) ?_, by simp [sixty]⟩
      · rintro ⟨asked, rfl⟩
        exact unusual ⟨asked, rfl⟩
      · rintro ⟨_, ⟨⟩, malformed⟩
        exact sound malformed
    · have one : code = 1 := same.trans coded
      refine ⟨iff_of_false (by simp [one]) fails, iff_of_false (by simp [one]) ?_,
        iff_of_true one ⟨e, rfl, malformed⟩, by simp [one]⟩
      rintro ⟨refusal, ⟨⟩, _⟩
      exact other ⟨refusal, rfl⟩
    · have moved : code = 3 ∨ code = 124 := by rwa [same]
      refine ⟨iff_of_false (by omega) fails, iff_of_false (by omega) ?_,
        iff_of_false (by omega) ?_, by rcases moved with moved | moved <;> simp [moved]⟩
      · rintro ⟨refusal, ⟨⟩, _⟩
        exact other ⟨refusal, rfl⟩
      · rintro ⟨_, ⟨⟩, malformed⟩
        exact sound malformed

private theorem ofCode_eq_noActiveProgram {code : UInt8} :
    DeviceStatus.ofCode code = .noActiveProgram ↔ code = 0xEC := by
  constructor
  · intro idle
    have same := DeviceStatus.code_ofCode code
    rw [idle] at same
    exact same.symm
  · rintro rfl
    rfl

/-- The failure of an operation is a refusal by the brick where a whole reply says so. -/
theorem perform_refused_iff {operation : Operation} (accepted : operation.command.check = .ok ())
    (settled : operation.command.opcode ≠ .lsGetStatus) {σ : Type} [Backend σ]
    (connection : Connection σ) (refusal : DeviceStatus) :
    (operation.perform connection).1.error? = some (.device refusal) ↔
      ∃ status, connection.Answered operation.command status ∧ status ≠ 0 ∧
        refusal = .ofCode status := by
  rw [← Connection.perform_device_iff accepted settled, operation.perform_eq]
  constructor
  · intro failed
    rcases operation.yield_error failed with failed | ⟨_, _, impossible⟩
    · exact failed
    · cases impossible
  · intro failed
    dsimp only
    rw [failed]
    exact operation.error?_yield _

/-- Nothing that a report does finds an open device closed. -/
theorem report_watched {device : Device} {resource : Resource}
    (opened : device.resource? = some resource) (command : BrickCommand) (host : Host) :
    ∀ call ∈ (command.report (watched device host)).2.backend.journal,
      call.reported ≠ .error .closed := by
  have start : device.Open ⟨(device, host), []⟩ := ⟨rfl, by simp⟩
  obtain ⟨result, after, reported, ended⟩ :=
    report_keeps (Device.open_keeps opened) command device.framing true start
  simp only [Act.run] at reported
  rw [watched, reported]
  exact ended.never

/-- On a device that is open an operation does not fail for a closed connection. -/
theorem perform_opened {device : Device} {resource : Resource}
    (opened : device.resource? = some resource) {command : BrickCommand} {operation : Operation}
    (one : command.operation = .ok operation) (accepted : operation.command.check = .ok ())
    {host : Host} {e : CommandError}
    (failed : (operation.perform (Connection.overDevice device host)).1.error? = some e) :
    Late e := by
  rw [← perform_watched] at failed
  refine perform_late accepted ?_ failed
  have same := (report_performs one (watched device host)).1
  rw [← watched, ← same]
  exact report_watched opened command host

/-- The outcome of a report that is printed in a format. -/
def printed (format : OutputFormat) (result : Except Failure Report) : Outcome :=
  .of (result.map fun report => report.render format ++ "\n")

/-- Rejected arguments are a matter of usage, and nothing is done with the connection. -/
theorem report_rejected {σ : Type} [Backend σ] {command : BrickCommand}
    (rejected : command.Rejected) (connection : Connection σ) (format : OutputFormat) :
    (command.report connection).2 = connection ∧
      (printed format (command.report connection).1).exitCode = 64 := by
  obtain ⟨failure, refused, usage⟩ := rejected.no_operation
  rw [report_refused refused]
  exact ⟨rfl, usage⟩

/-- The exit code of a subcommand that is performed on an open device. -/
theorem report_exitCode {device : Device} {resource : Resource}
    (opened : device.resource? = some resource) {command : BrickCommand}
    (inRange : command.InRange) (good : ¬ command.Rejected) (host : Host) (format : OutputFormat) :
    let connection := Connection.overDevice device host
    let code := (printed format (command.report connection).1).exitCode
    code ∈ [0, 1, 3, 60, 124] ∧
    (code = 0 → ∃ report, (command.report connection).1 = .ok report) ∧
    ∃ operation, command.operation = .ok operation ∧
      let failed := (operation.perform connection).1.error?
      (command.report connection).2 = (operation.perform connection).2 ∧
      (code = 0 ↔ failed = none ∨ command = .program ∧ failed = some (.device .noActiveProgram)) ∧
      (code = 60 ↔ ∃ status, connection.Answered operation.command status ∧ status ≠ 0 ∧
        ¬ (command = .program ∧ status = 0xEC)) ∧
      (code = 1 ↔ ∃ e, failed = some e ∧ Malformed e) := by
  intro connection code
  obtain ⟨operation, one, accepted, settled⟩ := command.operation_accepted inRange good
  obtain ⟨same, tells⟩ := report_performs one connection
  obtain ⟨success, refused, malformed, known⟩ :=
    tells.exitCode (fun e => perform_opened opened one accepted) format
  refine ⟨known, tells.report ∘ success.mp, operation, one, same, success, refused.trans ?_,
    malformed⟩
  -- A refusal other than the one that counts as success is a status other than its code.
  constructor
  · rintro ⟨refusal, failed, unusual⟩
    obtain ⟨status, answered, nonzero, rfl⟩ :=
      (perform_refused_iff accepted settled connection refusal).mp failed
    exact ⟨status, answered, nonzero, fun idle =>
      unusual ⟨idle.1, ofCode_eq_noActiveProgram.mpr idle.2⟩⟩
  · rintro ⟨status, answered, nonzero, unusual⟩
    refine ⟨.ofCode status, ?_, fun idle =>
      unusual ⟨idle.1, ofCode_eq_noActiveProgram.mp idle.2⟩⟩
    exact (perform_refused_iff accepted settled connection _).mpr ⟨status, answered, nonzero, rfl⟩

/-- The exit codes of a subcommand on an open device, rejected arguments among them. -/
theorem opened_exitCode {device : Device} {resource : Resource}
    (opened : device.resource? = some resource) {command : BrickCommand}
    (inRange : command.InRange) (host : Host) (format : OutputFormat) :
    let connection := Connection.overDevice device host
    let outcome := printed format (command.report connection).1
    outcome.exitCode ∈ [0, 1, 3, 60, 64, 124] ∧ (outcome.exitCode = 64 ↔ command.Rejected) ∧
    (outcome.exitCode = 0 → ∃ report, (command.report connection).1 = .ok report ∧
      outcome = ⟨0, report.render format ++ "\n", ""⟩) := by
  intro connection outcome
  by_cases rejected : command.Rejected
  · have usage : outcome.exitCode = 64 := (report_rejected rejected connection format).2
    exact ⟨by simp [usage], iff_of_true usage rejected, by simp [usage]⟩
  · obtain ⟨known, success, _⟩ := report_exitCode opened inRange rejected host format
    refine ⟨?_, iff_of_false ?_ rejected, fun zero => ?_⟩
    · exact List.Sublist.subset (by decide) known
    · intro usage
      have impossible := usage ▸ known
      simp at impossible
    · obtain ⟨report, reported⟩ := success zero
      exact ⟨report, reported, congrArg (printed format) reported⟩

/-- The exit code of a subcommand tells what became of it, for every command line that is accepted
and whatever the host answers. How closing ends shows neither in the exit code nor in what is
printed; a failure to close is a line of the log, and the log is not modelled. A failure to connect
is a failure of the transport. An open device is given back by the last call of the run, and no call
finds it closed; the exit code then tells rejected arguments, for which no byte is sent, from an
answer of the brick that says no, from an answer that is none, and from success. -/
theorem run_exitCode {environment : Option String} {line : List String} {invocation : Invocation}
    {command : BrickCommand} (parsed : parse environment line = .ok invocation)
    (brick : invocation.command = .brick command) (terminal : Bool) (script : Script) :
    let format := invocation.format.getD (.default terminal)
    let start := Host.ofScript script
    let ended := invocation.run terminal start
    (∀ close release,
      (invocation.run terminal (Host.ofScript { script with close, release })).1 = ended.1) ∧
    ended.1.exitCode ∈ [0, 1, 3, 60, 64, 124] ∧
    (∀ e failed, invocation.target.connect start = (.error e, failed) →
      ended.1.exitCode = 3 ∨ ended.1.exitCode = 124) ∧
    ∀ device host, invocation.target.connect start = (.ok device, host) →
      let connection := Connection.overDevice device host
      let watched := watched device host
      device.GivenBack host ended.2 ∧
      (∀ call ∈ (command.report watched).2.backend.journal, call.reported ≠ .error .closed) ∧
      (ended.1.exitCode = 64 ↔ command.Rejected) ∧
      (command.Rejected → (command.report watched).2 = watched) ∧
      (ended.1.exitCode = 0 → ∃ report, (command.report connection).1 = .ok report ∧
        ended.1 = ⟨0, report.render format ++ "\n", ""⟩) ∧
      (¬ command.Rejected → ∃ operation, command.operation = .ok operation ∧
        let failed := (operation.perform connection).1.error?
        (command.report connection).2 = (operation.perform connection).2 ∧
        (ended.1.exitCode = 0 ↔
          failed = none ∨ command = .program ∧ failed = some (.device .noActiveProgram)) ∧
        (ended.1.exitCode = 60 ↔ ∃ status, connection.Answered operation.command status ∧
          status ≠ 0 ∧ ¬ (command = .program ∧ status = 0xEC)) ∧
        (ended.1.exitCode = 1 ↔ ∃ e, failed = some e ∧ Malformed e)) := by
  intro format start ended
  have inRange := parse_inRange parsed brick
  have whole (host : Host) : invocation.run terminal host =
      (.of (command.run invocation.target format host).1,
        (command.run invocation.target format host).2) := by
    simp only [Invocation.run, brick]
    rfl
  refine ⟨?_, ?_⟩
  · intro close release
    simp only [ended, whole]
    rw [run_butClosing command _ format (Host.butClosing_ofScript script close release)]
  cases reached : invocation.target.connect start with
  | mk outcome host =>
    cases outcome with
    | error e =>
      have coded : ended.1.exitCode = 3 ∨ ended.1.exitCode = 124 := by
        simp only [ended, whole]
        exact run_unconnected command format reached
      -- There is no device then, so nothing is said of one.
      refine ⟨by rcases coded with coded | coded <;> simp [coded], fun _ _ _ => coded, nofun⟩
    | ok device =>
      obtain ⟨resource, opened⟩ :=
        ((connect_holds invocation.target).ok (Host.tidy_ofScript script) reached).opened
      obtain ⟨after, working, run⟩ := run_connected command invocation.target format reached
      -- The outcome is the one of the report; closing has an outcome of its own, which is dropped.
      have told : ended = (printed format (command.report (Connection.overDevice device host)).1,
          (Backend.close after : _ × Device × Host).2.2) := by
        simp only [ended, whole, run]
        rfl
      rw [told]
      obtain ⟨known, usage, success⟩ := opened_exitCode opened inRange host format
      refine ⟨known, by rintro _ _ ⟨⟩, ?_⟩
      rintro _ _ ⟨⟩
      exact ⟨working.givenBack opened, report_watched opened command host, usage,
        fun rejected => (report_rejected rejected _ format).1, success,
        fun good => (report_exitCode opened inRange good host format).2.2⟩

/-- The brick finds the packet insane, and releasing the interface may fail besides. -/
theorem run_exitCode_insane :
    let script : Script := { bulkIn := [⟨0, [2, 0x0B, 0xBF, 0, 0]⟩] }
    let invocation : Invocation := ⟨⟨none, true⟩, none, .text, .warn, .brick .battery⟩
    parse none ["--usb", "battery"] = .ok invocation ∧
    (∀ release, (invocation.run true (Host.ofScript { script with release })).1 =
      ⟨60, "", "error: battery: brick reported insane packet (status 0xbf)\n"⟩) ∧
    ∃ device host, invocation.target.connect (Host.ofScript script) = (.ok device, host) ∧
      device.GivenBack host (invocation.run true (Host.ofScript script)).2 ∧
      ∃ status, (Connection.overDevice device host).Answered .getBatteryLevel status ∧
        status ≠ 0 := by
  intro script invocation
  have parsed : parse none ["--usb", "battery"] = .ok invocation := rfl
  have outcome : (invocation.run true (Host.ofScript script)).1 =
      ⟨60, "", "error: battery: brick reported insane packet (status 0xbf)\n"⟩ := by decide +kernel
  have coded := congrArg Outcome.exitCode outcome
  obtain ⟨same, _, unconnected, connected⟩ := run_exitCode parsed rfl true script
  refine ⟨parsed, fun release => (same [] release).trans outcome, ?_⟩
  cases reached : invocation.target.connect (Host.ofScript script) with
  | mk ended host =>
    cases ended with
    | error e =>
      rcases unconnected e host reached with other | other
      · cases coded.symm.trans other
      · cases coded.symm.trans other
    | ok device =>
      obtain ⟨given, _, usage, _, _, performed⟩ := connected device host reached
      obtain ⟨operation, one, _, _, refused, _⟩ := performed nofun
      cases one
      obtain ⟨status, answered, nonzero, _⟩ := refused.mp coded
      exact ⟨device, host, rfl, given, status, answered, nonzero⟩

end BrickControl.CommandLine
