import BrickControl.Proofs.Command.Decoding
import BrickControl.Proofs.Command.Layout
import BrickControl.Proofs.CommandLine.Rejections
import BrickControl.Proofs.Device.Sending

/-!
# Acknowledgements

The brick does not answer to a tone, to the start and the stop of a program, or to a message. A run
that asks for one of them succeeds when its request is written, and prints what was sent. What it
prints describes the command as it was given; what the brick reads in the request is the command as
it is performed. Of these commands only a tone out of range is performed in another way than given.
-/
namespace BrickControl

/-- The call asks for bytes from a brick. -/
def Call.hears : Call → Bool
  | .receive _ _ _ | .bulkIn _ _ _ _ _ _ => true
  | _ => false

private theorem Call.hears_of_still {call : Call} (still : call.moves = false) :
    call.hears = false := by
  cases call with
  | receive => cases still
  | bulkIn => cases still
  | _ => rfl

private theorem Device.Sends.deaf {device : Device} {call : Call} (sends : device.Sends call) :
    call.hears = false := by
  cases device with
  | radio =>
    cases call with
    | send => rfl
    | _ => exact sends.elim
  | usb =>
    cases call with
    | bulkOut => rfl
    | _ => exact sends.elim

/-- What an acknowledgement says of a command. -/
def Command.detail : Command → String
  | .playTone frequency duration =>
    toString frequency.toNat ++ " Hz for " ++ toString duration.toNat ++ " ms"
  | .startProgram name => name
  | .messageWrite inbox data =>
    toString data.length ++ " bytes to mailbox " ++ toString inbox.toNat
  | _ => ""

namespace CommandLine

/-- The command of a subcommand that is acknowledged, behind the name that it has there. -/
def BrickCommand.acknowledged? : BrickCommand → Option (String × Command)
  | .tone frequency duration => some ("tone", .playTone frequency duration)
  | .start name => some ("start", .startProgram name)
  | .stop => some ("stop", .stopProgram)
  | .sendMessage inbox raw text => some ("send-message", .messageWrite inbox (ended text raw))
  | _ => none

section

variable {command : BrickCommand} {name : String} {told : Command}

/-- No reply is asked for by a command that is acknowledged. -/
theorem acknowledged_silent (asked : command.acknowledged? = some (name, told)) :
    told.opcode.replyLength? = none := by
  cases command with
  | tone => cases asked; rfl
  | start => cases asked; rfl
  | stop => cases asked; rfl
  | sendMessage => cases asked; rfl
  | _ => cases asked

private theorem clampTone_eq_iff (frequency : UInt16) :
    clampTone frequency = frequency ↔ 200 ≤ frequency ∧ frequency ≤ 14000 := by
  have limits : (200 : UInt16).toNat = 200 ∧ (14000 : UInt16).toNat = 14000 := by decide
  rw [← UInt16.toNat_inj, Layout.toNat_clampTone, Layout.tone, UInt16.le_iff_toNat_le,
    UInt16.le_iff_toNat_le, limits.1, limits.2]
  omega

/-- A frequency can be read in what is said of a tone. -/
theorem detail_playTone_inj {frequency other duration : UInt16}
    (same : (Command.playTone frequency duration).detail =
      (Command.playTone other duration).detail) : frequency = other := by
  -- The duration and the words around it are the same on both sides.
  have front := (String.append_left_inj _).mp
    ((String.append_left_inj _).mp ((String.append_left_inj _).mp same))
  have digits : Nat.toDigits 10 frequency.toNat = Nat.toDigits 10 other.toNat := by
    rw [← Nat.toList_repr, ← Nat.toList_repr]
    exact congrArg String.toList front
  apply UInt16.toNat_inj.mp
  calc
    frequency.toNat = Nat.ofDigitChars 10 (Nat.toDigits 10 frequency.toNat) 0 :=
      Nat.ofDigitChars_ten_toDigits.symm
    _ = Nat.ofDigitChars 10 (Nat.toDigits 10 other.toNat) 0 := by rw [digits]
    _ = other.toNat := Nat.ofDigitChars_ten_toDigits

/-- A tone is described as it is performed if the brick can play it, and everything else is. -/
theorem detail_clamped_iff (asked : command.acknowledged? = some (name, told)) :
    told.detail = told.clamped.detail ↔
      ∀ frequency duration, command = .tone frequency duration →
        200 ≤ frequency ∧ frequency ≤ 14000 := by
  cases command with
  | tone frequency duration =>
    cases asked
    constructor
    · rintro same _ _ ⟨⟩
      exact (clampTone_eq_iff frequency).mp (detail_playTone_inj same).symm
    · intro within
      have same := (clampTone_eq_iff frequency).mpr (within _ _ rfl)
      simp only [Command.clamped, same]
  | start => cases asked; exact iff_of_true rfl nofun
  | stop => cases asked; exact iff_of_true rfl nofun
  | sendMessage => cases asked; exact iff_of_true rfl nofun
  | _ => cases asked

variable {σ : Type} [Backend σ]

/-- What is not rejected is performed and acknowledged by its description. -/
private theorem report_acknowledged (asked : command.acknowledged? = some (name, told))
    (good : ¬command.Rejected) (connection : Connection σ) :
    command.report connection = acknowledge name told told.detail connection := by
  cases command with
  | tone => cases asked; rfl
  | start => cases asked; rfl
  | stop => cases asked; rfl
  | sendMessage inbox raw text =>
    cases asked
    -- The message fits into a mailbox, or the command would be rejected.
    have built : (Act.ofExcept (encodeMessage text raw) : Act (Connection σ) Failure _).run
        connection = (.ok (ended text raw), connection) :=
      congrArg (·, connection) (encodeMessage_fits (BrickCommand.length_ended_le good))
    exact Act.bind_run_ok built _
  | _ => cases asked

private theorem acknowledge_ok {detail : String} {connection : Connection σ} {report : Report}
    (reported : (acknowledge name told detail connection).1 = .ok report) :
    ∃ answer after, Connection.perform told connection = (.ok answer, after) ∧
      acknowledge name told detail connection = (.ok (.acknowledgement name detail), after) := by
  cases performed : Connection.perform told connection with
  | mk outcome after =>
    cases outcome with
    | error e =>
      have failed : acknowledge name told detail connection = _ := performing_run_error performed _
      rw [failed] at reported
      cases reported
    | ok answer => exact ⟨answer, after, rfl, performing_run_ok performed _⟩

/-- A run that succeeds wrote the request between connecting and closing, and heard nothing. -/
theorem run_acknowledged (asked : command.acknowledged? = some (name, told))
    (inRange : command.InRange) (target : Target) (format : OutputFormat) (script : Script)
    (succeeded : (Outcome.of (command.run target format (Host.ofScript script)).1).exitCode = 0) :
    told.check = .ok () ∧
    ∃ device host writes returns, target.connect (Host.ofScript script) = (.ok device, host) ∧
      command.run target format (Host.ofScript script) =
        (.ok ((Report.acknowledgement name told.detail).render format ++ "\n"),
          (command.run target format (Host.ofScript script)).2) ∧
      (command.run target format (Host.ofScript script)).2.calls =
        host.calls ++ writes ++ returns ∧
      device.Writes told.request writes ∧ ∀ call ∈ returns, device.Returns call := by
  cases reached : target.connect (Host.ofScript script) with
  | mk outcome host =>
    cases outcome with
    | error e =>
      -- A run that does not connect does not exit with zero, nor does one that is rejected.
      rcases run_unconnected command format reached with code | code
      · rw [code] at succeeded
        cases succeeded
      · rw [code] at succeeded
        cases succeeded
    | ok device =>
      obtain ⟨resource, opened⟩ :=
        ((connect_holds target).ok (Host.tidy_ofScript script) reached).opened
      obtain ⟨after, _, run⟩ := run_connected command target format reached
      obtain ⟨_, usage, reports⟩ := opened_exitCode opened inRange host format
      have zero : (printed format
          (command.report (Connection.overDevice device host)).1).exitCode = 0 := by
        rw [run] at succeeded
        exact succeeded
      have good : ¬command.Rejected := fun rejected => by
        cases (usage.mpr rejected).symm.trans zero
      obtain ⟨report, reported, _⟩ := reports zero
      rw [report_acknowledged asked good] at reported
      obtain ⟨answer, ended, performed, acknowledged⟩ := acknowledge_ok reported
      obtain ⟨accepted, sent, writes, rfl, added, written⟩ :=
        Connection.perform_writes (acknowledged_silent asked) performed
      obtain ⟨_, _, closed, closing, _, returns, same, returned⟩ := Device.close_returns device sent
      -- What is left to say is that the run has no call besides: it connects, writes and closes.
      refine ⟨accepted, device, host, writes, returns, rfl, ?_, ?_, written, returned⟩
      · simp only [BrickCommand.run, reached, report_acknowledged asked good, acknowledged]
        rfl
      · have whole : (command.run target format (Host.ofScript script)).2 = closed := by
          simp only [BrickCommand.run, reached, report_acknowledged asked good, acknowledged]
          exact congrArg (fun closing => closing.2.2) closing
        rw [whole, same, added.calls]

/-- A run for a tone, for the start or the stop of a program or for a message that exits with zero
has written one request, for which no reply is asked and none was read. Its acknowledgement says of
the request what a decoder finds in it, but for a tone out of range: there it has the frequency that
was asked for, and the request has the nearest one in the range. -/
theorem execute_acknowledges {environment : Option String} {line : List String}
    {invocation : Invocation} (parsed : parse environment line = .ok invocation)
    (brick : invocation.command = .brick command)
    (asked : command.acknowledged? = some (name, told)) (terminal : Bool) (script : Script)
    (succeeded : (execute environment line terminal (Host.ofScript script)).1.exitCode = 0) :
    let ended := execute environment line terminal (Host.ofScript script)
    (∃ device host writes returns,
      invocation.target.connect (Host.ofScript script) = (.ok device, host) ∧
      ended.2.calls = host.calls ++ writes ++ returns ∧ device.Writes told.request writes ∧
      ∀ call ∈ host.calls ++ returns, call.moves = false) ∧
    (∀ call ∈ ended.2.calls, call.hears = false) ∧
    told.request.head? = some 0x80 ∧
    ended.1 = ⟨0, (Report.acknowledgement name told.detail).render
      (invocation.format.getD (.default terminal)) ++ "\n", ""⟩ ∧
    Command.ofRequest? told.request = some told.clamped ∧
    (told.detail = told.clamped.detail ↔
      ∀ frequency duration, command = .tone frequency duration →
        200 ≤ frequency ∧ frequency ≤ 14000) := by
  intro ended
  have whole := execute_brick parsed brick terminal (Host.ofScript script)
  rw [whole] at succeeded
  obtain ⟨accepted, device, host, writes, returns, reached, outcome, calls, written, returned⟩ :=
    run_acknowledged asked (parse_inRange parsed brick) _ _ script succeeded
  -- Connecting moves no byte of a request or a reply, and neither does closing.
  have dialled : ∀ call ∈ host.calls, call.moves = false := by
    have still := (connect_still invocation.target (Host.ofScript script)).all
    rwa [reached] at still
  have still : ∀ call ∈ host.calls ++ returns, call.moves = false :=
    List.forall_mem_append.mpr ⟨dialled, fun call member => (returned call member).still⟩
  refine ⟨⟨device, host, writes, returns, reached, ?_, written, still⟩, ?_, ?_, ?_,
    Command.ofRequest?_request told accepted, detail_clamped_iff asked⟩
  · simp only [ended, whole]
    exact calls
  · simp only [ended, whole]
    rw [calls, List.forall_mem_append, List.forall_mem_append]
    refine ⟨⟨fun call member => ?_, fun call member => ?_⟩, fun call member => ?_⟩
    · exact Call.hears_of_still (dialled call member)
    · exact (written.moves.sends call member).deaf
    · exact Call.hears_of_still (returned call member).still
  · simp only [Command.request, Opcode.replyMode, acknowledged_silent asked]
    rfl
  · simp only [ended, whole]
    rw [outcome]
    rfl

/-- The first piece of the envelope is cut short by a signal, and the next one takes half of the
length field. -/
theorem execute_acknowledges_pieces :
    let line := ["--address", "00:16:53:12:5C:67", "send-message", "-i", "3", "go"]
    let told : Command := .messageWrite 3 [0x67, 0x6F, 0]
    let script : Script := { send := [.error ⟨4⟩, .ok (some 1), .ok (some 4)] }
    let ended := execute none line true (Host.ofScript script)
    (∃ (device : Device) (host : Host) (writes returns : List Call),
      ended.2.calls = host.calls ++ writes ++ returns ∧ device.Writes told.request writes) ∧
    ended.1 = ⟨0, (Report.acknowledgement "send-message" "3 bytes to mailbox 3").render .table ++
      "\n", ""⟩ ∧
    Command.ofRequest? told.request = some told := by
  intro line told script ended
  have parsed : parse none line = .ok ⟨⟨some "00:16:53:12:5C:67", false⟩, none, .text, .warn,
    .brick (.sendMessage 3 false "go")⟩ := rfl
  have zero : ended.1.exitCode = 0 := by decide +kernel
  obtain ⟨⟨device, host, writes, returns, _, calls, written, _⟩, _, _, outcome, decoded, _⟩ :=
    execute_acknowledges parsed rfl rfl true script zero
  exact ⟨⟨device, host, writes, returns, calls, written⟩, outcome, decoded⟩

/-- The lowest tone is played where a lower one was asked for, and the lower one is reported. -/
theorem low_tone_acknowledged :
    let ended := execute none ["--usb", "tone", "-f", "100"] false (Host.ofScript {})
    let request : Bytes := [0x80, 0x03, 0xC8, 0x00, 0xF4, 0x01]
    ended.1 = ⟨0, (Report.acknowledgement "tone" "100 Hz for 500 ms").render .json ++ "\n", ""⟩ ∧
    ended.2.calls.flatMap Call.sent = request ∧
    Command.ofRequest? request = some (.playTone 200 500) ∧
    (Command.playTone 200 500).detail = "200 Hz for 500 ms" := by
  decide +kernel

end

end CommandLine
end BrickControl
