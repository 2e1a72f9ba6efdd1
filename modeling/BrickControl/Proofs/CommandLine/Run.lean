import BrickControl.CommandLine.Run
import BrickControl.Proofs.Device.Resources

/-!
# The run of a subcommand

A subcommand uses its connection through commands alone, so what a connection keeps is kept by its
report, and a run as a whole leads from connecting over the report to the close.
-/
namespace BrickControl.CommandLine

variable {σ τ : Type} [Backend σ] [Backend τ] {framing : Framing} {opened : Bool}

section

variable {R : σ → τ → Prop} (alike : Backend.Alike R)

include alike

/-- A command fails on both sides under the same name, or succeeds on both with the same answer. -/
theorem performing_alike (context : String) (command : Command) :
    Act.Alike (Connection.Linked R framing opened) (performing context command)
      (performing context command) :=
  (Connection.perform_alike alike command).mapError _

private theorem acknowledge_alike (context : String) (command : Command) (detail : String) :
    Act.Alike (Connection.Linked R framing opened) (acknowledge context command detail)
      (acknowledge context command detail) :=
  (performing_alike alike context command).bind fun _ => Act.alike_known (.ok _)

private theorem runningProgram_alike :
    Act.Alike (Connection.Linked R framing opened) runningProgram runningProgram := by
  intro left right linked
  obtain ⟨outcome, left', right', ended, ended', linked'⟩ :=
    (Connection.perform_alike alike .getCurrentProgramName left right linked).split
  simp only [Act.run] at ended ended'
  simp only [Act.run, runningProgram, ended, ended']
  rcases outcome with e | name
  · -- This one error is an answer: no program is running.
    by_cases idle : e = .device .noActiveProgram
    · subst idle
      exact ⟨rfl, linked'⟩
    · simp only
      exact ⟨rfl, linked'⟩
  · exact ⟨rfl, linked'⟩

private theorem readMailbox_alike (remote inbox : UInt8) (keep : Bool) :
    Act.Alike (Connection.Linked R framing opened) (readMailbox remote inbox keep)
      (readMailbox remote inbox keep) := by
  intro left right linked
  obtain ⟨outcome, left', right', ended, ended', linked'⟩ :=
    (Connection.perform_alike alike (.messageRead remote inbox !keep) left right linked).split
  simp only [Act.run] at ended ended'
  simp only [Act.run, readMailbox, Connection.messageRead, Connection.fillFrom, ended, ended']
  cases outcome with
  | error e => exact ⟨rfl, linked'⟩
  | ok transfer =>
    dsimp only
    -- The buffer is the same fresh one on both sides, so as much of the message fits.
    cases transfer.fill (List.replicate Limits.messageLength 0) with
    | mk filled held =>
      cases filled with
      | error e => exact ⟨rfl, linked'⟩
      | ok n => exact ⟨rfl, linked'⟩

/-- Over backends that behave alike a subcommand reports the same. -/
theorem report_alike (command : BrickCommand) :
    Act.Alike (Connection.Linked R framing opened) command.report command.report := by
  cases command with
  | battery => exact (performing_alike alike _ _).bind fun _ => Act.alike_known (.ok _)
  | keepalive => exact (performing_alike alike _ _).bind fun _ => Act.alike_known (.ok _)
  | tone frequency duration => exact acknowledge_alike alike _ _ _
  | start name => exact acknowledge_alike alike _ _ _
  | stop => exact acknowledge_alike alike _ _ _
  | program => exact runningProgram_alike alike
  | sendMessage inbox raw text =>
    exact (Act.alike_known _).bind fun data => acknowledge_alike alike _ _ _
  | readMessage remote inbox keep => exact readMailbox_alike alike remote inbox keep
  | output port => exact (performing_alike alike _ _).bind fun _ => Act.alike_known (.ok _)
  | input number =>
    exact ((Act.alike_known _).mapError _).bind fun port =>
      (performing_alike alike _ _).bind fun _ => Act.alike_known (.ok _)

end

/-- A report keeps what reads and writes keep, and does not close the connection. -/
theorem report_keeps {I : σ → Prop} (keeps : Backend.Keeps I) (command : BrickCommand)
    (framing : Framing) (opened : Bool) {s : σ} (holds : I s) :
    ∃ result after,
      command.report.run ⟨framing, opened, s⟩ = (result, ⟨framing, opened, after⟩) ∧ I after := by
  have start : Connection.Linked (Backend.Itself I) framing opened ⟨framing, opened, s⟩
      ⟨framing, opened, s⟩ := .intro ⟨rfl, holds⟩
  obtain ⟨result, _, _, ended, _, linked⟩ := (report_alike keeps.alike command _ _ start).split
  obtain @⟨after, _, _, holds'⟩ := linked
  exact ⟨result, after, ended, holds'⟩

/-- A run leads from the condition back to it, if connecting leads from it to a property that a
device keeps in use, and closing leads from there back. -/
theorem run_leads {I : Host → Prop} {J : Device × Host → Prop} {target : Target}
    (opens : target.connect.Leads I (fun device host => J (device, host)) I)
    (keeps : Backend.Keeps J)
    (closes : ∀ state, J state → I (Backend.close state : _ × Device × Host).2.2)
    (command : Subcommand) (format : OutputFormat) {host : Host} (holds : I host) :
    I (command.run target format host).2 := by
  cases command with
  | version extended => exact holds
  | brick command =>
    simp only [Subcommand.run, BrickCommand.run]
    cases ended : target.connect host with
    | mk outcome reached =>
      cases outcome with
      | error e => exact opens.error holds ended
      | ok device =>
        -- The device is closed whatever came of the report.
        have has : J (device, reached) := opens.ok holds ended
        obtain ⟨result, after, reported, has⟩ :=
          report_keeps keeps command device.framing true has
        simp only [Act.run] at reported
        simp only [Connection.overDevice, reported]
        exact closes after has

/-- A target that is connected leaves a device that holds what it opened, and one that is not leaves
nothing behind. -/
theorem connect_holds (target : Target) :
    target.connect.Leads Host.Tidy Device.Holds Host.Tidy := by
  refine Act.Leads.ite (Device.openUsb_holds _ _ _) ?_
  -- With an address the radio alone is tried, without one USB as well.
  cases target.address with
  | some address => exact Device.openRadio_holds address {}
  | none => exact Opening.any.connect_holds

/-- The program gives back whatever it got from the host, however it ends. -/
theorem run_balanced (invocation : Invocation) (terminal : Bool) (script : Script) :
    Balanced (invocation.run terminal (Host.ofScript script)).2.calls := by
  have tidy := run_leads (connect_holds invocation.target) Device.keeps_holds
    (fun _ holds => (Device.Holds.close holds).2) invocation.command
    (invocation.format.getD (.default terminal)) (Host.tidy_ofScript script)
  exact tidy.balanced

end BrickControl.CommandLine
