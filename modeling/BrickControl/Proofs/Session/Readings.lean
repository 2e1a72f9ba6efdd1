import BrickControl.Backend.Rehearsal
import BrickControl.Proofs.Command.Cells
import BrickControl.Proofs.Session.Fulfilled

/-!
# Replies with a fixed layout

`Holds` writes down where the fields of a value stand in the reply that brings it. A reply in which
a value is written is read as this value, and a value comes from nothing else: the cells leave no
byte of the payload unread. Only a mark of an input may be any byte but zero. An output or an input
is answered for only where the reply names its port.
-/
namespace BrickControl

open Layout

/-- Where the fields of an output's reply stand. -/
def OutputReading.cells (reading : OutputReading) : List Cell :=
  [⟨3, [reading.port.byte]⟩, ⟨4, [signed reading.power.toInt]⟩, ⟨5, [reading.mode.bits]⟩,
    ⟨6, [reading.regulation.bits]⟩, ⟨7, [signed reading.turnRatio.toInt]⟩,
    ⟨8, [reading.runState.bits]⟩, ⟨9, long reading.tachoLimit.toNat⟩,
    ⟨13, signedLong reading.tachoCount.toInt⟩, ⟨17, signedLong reading.blockTachoCount.toInt⟩,
    ⟨21, signedLong reading.rotationCount.toInt⟩]

/-- Where the fields of an input's reply stand, with the bytes that mark it as valid and as
calibrated. -/
def InputReading.cells (reading : InputReading) (valid calibrated : UInt8) : List Cell :=
  [⟨3, [reading.port.byte]⟩, ⟨4, [valid]⟩, ⟨5, [calibrated]⟩, ⟨6, [reading.sensorType.bits]⟩,
    ⟨7, [reading.sensorMode.bits]⟩, ⟨8, short reading.raw.toNat⟩,
    ⟨10, short reading.normalized.toNat⟩, ⟨12, signedShort reading.scaled.toInt⟩,
    ⟨14, signedShort reading.calibratedValue.toInt⟩]

namespace Command
open FieldReader

/-- What is written in the reply to a query when it answers with a value. A mark may be any byte but
zero. -/
inductive Holds : (command : Command) → command.Answer → List Cell → Prop where
  | output {port : OutputPort} (reading : OutputReading) (own : reading.port = port) :
      Holds (.getOutputState port) reading reading.cells
  | input {port : InputPort} (reading : InputReading) (own : reading.port = port)
      {valid calibrated : UInt8} (isValid : reading.valid = decide (valid ≠ 0))
      (isCalibrated : reading.calibrated = decide (calibrated ≠ 0)) :
      Holds (.getInputValues port) reading (reading.cells valid calibrated)
  | battery (millivolts : UInt16) : Holds .getBatteryLevel millivolts [⟨3, short millivolts.toNat⟩]
  | sleep (milliseconds : UInt32) : Holds .keepAlive milliseconds [⟨3, long milliseconds.toNat⟩]

/-- The cells of a value fill the payload of a reply. -/
theorem Holds.adjoining {command : Command} {value : command.Answer} {cells : List Cell}
    (holds : command.Holds value cells) :
    ∃ size, command.opcode.replyLength? = some size ∧ Adjoining 3 cells size := by
  cases holds with
  | output reading => exact ⟨25, rfl, rfl, rfl, rfl, rfl, rfl, rfl, rfl, rfl, rfl, rfl, rfl⟩
  | input reading => exact ⟨16, rfl, rfl, rfl, rfl, rfl, rfl, rfl, rfl, rfl, rfl, rfl⟩
  | battery => exact ⟨5, rfl, rfl, rfl⟩
  | sleep => exact ⟨7, rfl, rfl, rfl⟩

private theorem yields_output (reading : OutputReading) :
    Yields (readOutput reading.port) (written reading.cells) (.ok reading) := by
  refine (yields_byte reading.port.byte).bind (.otherwise (by simp) ?_)
  exact (yields_laidSigned reading.power).bind <| (yields_byte reading.mode.bits).bind <|
    (yields_byte reading.regulation.bits).bind <| (yields_laidSigned reading.turnRatio).bind <|
    (yields_byte reading.runState.bits).bind <| (yields_laidLong reading.tachoLimit).bind <|
    (yields_signedLong reading.tachoCount).bind <|
    (yields_signedLong reading.blockTachoCount).bind <|
    (yields_signedLong reading.rotationCount).bind <| yields_pure _

private theorem yields_input (reading : InputReading) {valid calibrated : UInt8}
    (isValid : reading.valid = decide (valid ≠ 0))
    (isCalibrated : reading.calibrated = decide (calibrated ≠ 0)) :
    Yields (readInput reading.port) (written (reading.cells valid calibrated)) (.ok reading) := by
  obtain ⟨port, _, _, sensorType, sensorMode, raw, normalized, scaled, calibratedValue⟩ := reading
  cases isValid
  cases isCalibrated
  refine (yields_byte port.byte).bind (.otherwise (by simp) ?_)
  exact (yields_mark valid).bind <| (yields_mark calibrated).bind <|
    (yields_byte sensorType.bits).bind <| (yields_byte sensorMode.bits).bind <|
    (yields_laidWord raw).bind <| (yields_laidWord normalized).bind <|
    (yields_signedWord scaled).bind <| (yields_signedWord calibratedValue).bind <| yields_pure _

/-- The payload in which a value is written is read as this value. -/
theorem Holds.conclude {command : Command} {value : command.Answer} {cells : List Cell}
    (holds : command.Holds value cells) : command.conclude (written cells) = .ok value := by
  have read : command.decode? (written cells) = some (.ok value) := by
    cases holds with
    | output reading own =>
      subst own
      exact (yields_output reading).run
    | input reading own isValid isCalibrated =>
      subst own
      exact (yields_input reading isValid isCalibrated).run
    | battery millivolts => exact ((yields_laidWord millivolts).map Except.ok).run
    | sleep milliseconds => exact ((yields_laidLong milliseconds).map Except.ok).run
  rw [Command.conclude, read]

/-! ### Every value from its own layout -/

/-- A packet of the right size has an output written in it, or names another one. -/
private theorem finds_output (port : OutputPort) {packet : Bytes} (size : packet.length = 25) :
    (∃ reading, reading.port = port ∧ Finds packet 3 25 (readOutput port) (.ok reading) ∧
      ∀ cell ∈ reading.cells, cell.StandsIn packet) ∨
    ∃ echoed, echoed ≠ port.byte ∧ Cell.StandsIn packet ⟨3, [echoed]⟩ ∧
      Finds packet 3 4 (readOutput port) (.error (.portMismatch port.byte echoed)) := by
  obtain ⟨echoed, found, stands⟩ := finds_byte (show 3 < packet.length by omega)
  by_cases own : echoed = port.byte
  · subst own
    left
    -- One reader for each cell, in the order of their offsets.
    obtain ⟨power, found4, stands4⟩ := finds_signed (show 4 < packet.length by omega)
    obtain ⟨mode, found5, stands5⟩ := finds_byte (show 5 < packet.length by omega)
    obtain ⟨regulation, found6, stands6⟩ := finds_byte (show 6 < packet.length by omega)
    obtain ⟨turnRatio, found7, stands7⟩ := finds_signed (show 7 < packet.length by omega)
    obtain ⟨runState, found8, stands8⟩ := finds_byte (show 8 < packet.length by omega)
    obtain ⟨limit, found9, stands9⟩ := finds_long (show 9 + 4 ≤ packet.length by omega)
    obtain ⟨count, found13, stands13⟩ := finds_signedLong (show 13 + 4 ≤ packet.length by omega)
    obtain ⟨block, found17, stands17⟩ := finds_signedLong (show 17 + 4 ≤ packet.length by omega)
    obtain ⟨rotation, found21, stands21⟩ := finds_signedLong (show 21 + 4 ≤ packet.length by omega)
    refine ⟨⟨port, power, ⟨mode⟩, ⟨regulation⟩, turnRatio, ⟨runState⟩, limit, count, block,
      rotation⟩, rfl, ?_, ?_⟩
    · refine found.bind (.otherwise (by simp) ?_)
      exact found4.bind <| found5.bind <| found6.bind <| found7.bind <| found8.bind <|
        found9.bind <| found13.bind <| found17.bind <| found21.bind <| finds_pure _
    · simp only [OutputReading.cells, List.forall_mem_cons]
      exact ⟨stands, stands4, stands5, stands6, stands7, stands8, stands9, stands13, stands17,
        stands21, nofun⟩
  · exact .inr ⟨echoed, own, stands, found.bind (.provided own (finds_pure _))⟩

private theorem finds_input (port : InputPort) {packet : Bytes} (size : packet.length = 16) :
    (∃ reading valid calibrated, reading.port = port ∧ reading.valid = decide (valid ≠ 0) ∧
      reading.calibrated = decide (calibrated ≠ 0) ∧
      Finds packet 3 16 (readInput port) (.ok reading) ∧
      ∀ cell ∈ reading.cells valid calibrated, cell.StandsIn packet) ∨
    ∃ echoed, echoed ≠ port.byte ∧ Cell.StandsIn packet ⟨3, [echoed]⟩ ∧
      Finds packet 3 4 (readInput port) (.error (.portMismatch port.byte echoed)) := by
  obtain ⟨echoed, found, stands⟩ := finds_byte (show 3 < packet.length by omega)
  by_cases own : echoed = port.byte
  · subst own
    left
    obtain ⟨valid, found4, stands4⟩ := finds_flag (show 4 < packet.length by omega)
    obtain ⟨calibrated, found5, stands5⟩ := finds_flag (show 5 < packet.length by omega)
    obtain ⟨sensorType, found6, stands6⟩ := finds_byte (show 6 < packet.length by omega)
    obtain ⟨sensorMode, found7, stands7⟩ := finds_byte (show 7 < packet.length by omega)
    obtain ⟨raw, found8, stands8⟩ := finds_word (show 8 + 2 ≤ packet.length by omega)
    obtain ⟨normalized, found10, stands10⟩ := finds_word (show 10 + 2 ≤ packet.length by omega)
    obtain ⟨scaled, found12, stands12⟩ := finds_signedWord (show 12 + 2 ≤ packet.length by omega)
    obtain ⟨value, found14, stands14⟩ := finds_signedWord (show 14 + 2 ≤ packet.length by omega)
    refine ⟨⟨port, decide (valid ≠ 0), decide (calibrated ≠ 0), ⟨sensorType⟩, ⟨sensorMode⟩, raw,
      normalized, scaled, value⟩, valid, calibrated, rfl, rfl, rfl, ?_, ?_⟩
    · refine found.bind (.otherwise (by simp) ?_)
      exact found4.bind <| found5.bind <| found6.bind <| found7.bind <| found8.bind <|
        found10.bind <| found12.bind <| found14.bind <| finds_pure _
    · simp only [InputReading.cells, List.forall_mem_cons]
      exact ⟨stands, stands4, stands5, stands6, stands7, stands8, stands10, stands12, stands14,
        nofun⟩
  · exact .inr ⟨echoed, own, stands, found.bind (.provided own (finds_pure _))⟩

/-- The replies to these queries have a fixed layout. -/
def fixed : Command → Bool
  | .getOutputState _ | .getInputValues _ | .getBatteryLevel | .keepAlive => true
  | _ => false

/-- The port that the reply to a query has to name. -/
def port? : Command → Option UInt8
  | .getOutputState port => some port.byte
  | .getInputValues port => some port.byte
  | _ => none

section

variable {command : Command} {payload : Bytes}

/-- What stands in a reply is all there is in it. -/
theorem Holds.payload_eq {value : command.Answer} {cells : List Cell} {size : Nat}
    (holds : command.Holds value cells) (answered : command.opcode.replyLength? = some size)
    {packet : Bytes} (whole : packet.length = size)
    (stand : ∀ cell ∈ cells, cell.StandsIn packet) : packet.drop 3 = written cells := by
  obtain ⟨_, answered', adjoining⟩ := holds.adjoining
  cases answered.symm.trans answered'
  have parts := drop_of_stand adjoining stand
  rwa [List.drop_of_length_le (Nat.le_of_eq whole), List.append_nil] at parts

private theorem conclude_of_finds {reader : FieldReader (Except CommandError command.Answer)}
    {last : Nat} {outcome : Except CommandError command.Answer}
    (reads : command.decode? payload = reader.run' payload)
    (found : Finds (0x02 :: command.opcode.byte :: 0 :: payload) 3 last reader outcome) :
    command.conclude payload = outcome := by
  have ended : reader.run' payload = some outcome := found.run
  rw [conclude, reads, ended]

private theorem cons_of_stands {packet : Bytes} {offset : Nat} {b : UInt8}
    (stands : Cell.StandsIn packet ⟨offset, [b]⟩) : ∃ rest, packet.drop offset = b :: rest := by
  have first : (packet.drop offset).take 1 = [b] := stands
  cases parts : packet.drop offset with
  | nil =>
    rw [parts] at first
    cases first
  | cons c rest =>
    rw [parts] at first
    cases first
    exact ⟨rest, rfl⟩

/-- A payload of the right size says that a value is written in it, or that it is about another
port. -/
theorem conclude_fixed (fixed : command.fixed) {size : Nat}
    (answered : command.opcode.replyLength? = some size) (whole : payload.length = size - 3) :
    (∃ value cells, command.conclude payload = .ok value ∧ command.Holds value cells ∧
      payload = written cells) ∨
    ∃ port echoed rest, command.port? = some port ∧ payload = echoed :: rest ∧ echoed ≠ port ∧
      command.conclude payload = .error (.portMismatch port echoed) := by
  have length : (0x02 :: command.opcode.byte :: 0 :: payload).length = size := by
    have header : 3 ≤ size := Connection.replyHeaderLength_le_of_replyLength answered
    simp only [List.length_cons]
    omega
  -- An output and an input have a port in front, and the other two values are all of their payload.
  cases command with
  | getOutputState port =>
    cases answered
    rcases finds_output port length with
      ⟨reading, rfl, found, stand⟩ | ⟨echoed, other, stands, found⟩
    · have holds := Holds.output reading rfl
      exact .inl ⟨reading, _, conclude_of_finds rfl found, holds, holds.payload_eq rfl length stand⟩
    · obtain ⟨rest, parts⟩ := cons_of_stands stands
      exact .inr ⟨_, echoed, rest, rfl, parts, other, conclude_of_finds rfl found⟩
  | getInputValues port =>
    cases answered
    rcases finds_input port length with
      ⟨reading, valid, calibrated, rfl, isValid, isCalibrated, found, stand⟩ |
      ⟨echoed, other, stands, found⟩
    · have holds := Holds.input reading rfl isValid isCalibrated
      exact .inl ⟨reading, _, conclude_of_finds rfl found, holds, holds.payload_eq rfl length stand⟩
    · obtain ⟨rest, parts⟩ := cons_of_stands stands
      exact .inr ⟨_, echoed, rest, rfl, parts, other, conclude_of_finds rfl found⟩
  | getBatteryLevel =>
    cases answered
    obtain ⟨millivolts, found, stands⟩ := finds_word (Nat.le_of_eq length.symm)
    have holds := Holds.battery millivolts
    refine .inl ⟨millivolts, _, conclude_of_finds rfl (found.map Except.ok), holds,
      holds.payload_eq rfl length ?_⟩
    exact List.forall_mem_singleton.mpr stands
  | keepAlive =>
    cases answered
    obtain ⟨milliseconds, found, stands⟩ := finds_long (Nat.le_of_eq length.symm)
    have holds := Holds.sleep milliseconds
    refine .inl ⟨milliseconds, _, conclude_of_finds rfl (found.map Except.ok), holds,
      holds.payload_eq rfl length ?_⟩
    exact List.forall_mem_singleton.mpr stands
  | _ => cases fixed

end

/-- Payloads that say the same. They are equal, but for the bytes that mark an input as valid and as
calibrated, where only zero is told from other bytes. -/
def SamePayload : Command → Bytes → Bytes → Prop
  | .getInputValues _, payload, payload' => ∃ port valid valid' calibrated calibrated' rest,
    payload = port :: valid :: calibrated :: rest ∧
    payload' = port :: valid' :: calibrated' :: rest ∧
    (valid = 0 ↔ valid' = 0) ∧ (calibrated = 0 ↔ calibrated' = 0)
  | _, payload, payload' => payload = payload'

/-- The port that an answer is about. -/
def names? : (command : Command) → command.Answer → Option UInt8
  | .getOutputState _, reading => some reading.port.byte
  | .getInputValues _, reading => some reading.port.byte
  | _, _ => none

private theorem written_marks (reading : InputReading) (valid calibrated : UInt8) :
    written (reading.cells valid calibrated) =
      reading.port.byte :: valid :: calibrated :: written ((reading.cells 0 0).drop 3) := rfl

private theorem Holds.samePayload {command : Command} {value : command.Answer}
    {cells cells' : List Cell}
    (holds : command.Holds value cells) (holds' : command.Holds value cells') :
    command.SamePayload (written cells) (written cells') := by
  -- All cells but the marks of an input are computed from the value itself.
  cases holds with
  | output reading =>
    cases holds'
    rfl
  | @input _ reading _ valid calibrated isValid isCalibrated =>
    cases holds' with
    | @input _ _ _ valid' calibrated' isValid' isCalibrated' =>
      refine ⟨_, valid, valid', calibrated, calibrated', _, written_marks reading valid calibrated,
        written_marks reading valid' calibrated', ?_, ?_⟩
      · simpa [not_iff_not] using isValid.symm.trans isValid'
      · simpa [not_iff_not] using isCalibrated.symm.trans isCalibrated'
  | battery millivolts =>
    cases holds'
    rfl
  | sleep milliseconds =>
    cases holds'
    rfl

private theorem Holds.names {command : Command} {value : command.Answer} {cells : List Cell}
    (holds : command.Holds value cells) : command.names? value = command.port? := by
  cases holds with
  | output reading own => exact congrArg (some ·.byte) own
  | input reading own => exact congrArg (some ·.byte) own
  | battery => rfl
  | sleep => rfl

/-- A value is written behind the port that was asked for. -/
theorem Holds.starts {command : Command} {value : command.Answer} {cells : List Cell} {port : UInt8}
    (holds : command.Holds value cells) (asked : command.port? = some port) :
    ∃ rest, cells = ⟨3, [port]⟩ :: rest := by
  cases holds with
  | output reading own =>
    subst own
    cases asked
    exact ⟨_, rfl⟩
  | input reading own =>
    subst own
    cases asked
    exact ⟨_, rfl⟩
  | battery => cases asked
  | sleep => cases asked

/-- A query with a fixed layout has an answer, which does not wait for a sensor. -/
theorem fixed_query {command : Command} (fixed : command.fixed) :
    command.opcode ≠ .lsGetStatus ∧ ∃ size, command.opcode.replyLength? = some size := by
  cases command with
  | getOutputState _ | getInputValues _ | getBatteryLevel | keepAlive =>
    exact ⟨by rintro ⟨⟩, _, rfl⟩
  | _ => cases fixed

private theorem fixed_of_port {command : Command} {port : UInt8}
    (asked : command.port? = some port) : command.fixed := by
  cases command with
  | getOutputState _ | getInputValues _ => rfl
  | _ => cases asked

end Command

namespace Connection

variable {σ : Type} [Backend σ] {command : Command} {start after : Connection σ}

/-- How a query with a fixed layout ends: with the value that is written in the reply, because the
reply names another port, or without a reply of success and not about a payload. -/
inductive Reads (command : Command) (start : Connection σ) :
    Except CommandError command.Answer × Connection σ → Prop where
  | value {value : command.Answer} {cells : List Cell} {after : Connection σ}
      (holds : command.Holds value cells) (done : Fulfilled command (written cells) start after) :
      Reads command start (.ok value, after)
  | elsewhere {port echoed : UInt8} {rest : Bytes} {after : Connection σ}
      (asked : command.port? = some port) (other : echoed ≠ port)
      (done : Fulfilled command (echoed :: rest) start after) :
      Reads command start (.error (.portMismatch port echoed), after)
  | failed {e : CommandError} {after : Connection σ} (about : e.ofPayload = false)
      (never : ∀ payload after, ¬Fulfilled command payload start after) :
      Reads command start (.error e, after)

/-- Every query with a fixed layout ends in one of these ways. -/
theorem perform_reads (fixed : command.fixed) (start : Connection σ) :
    Reads command start (perform command start) := by
  obtain ⟨settled, size, answered⟩ := Command.fixed_query fixed
  -- A failure that is not about a payload is met only where no reply of success came.
  by_cases either : ∃ payload after, Fulfilled command payload start after
  · obtain ⟨payload, after, done⟩ := either
    rw [perform_fulfilled done]
    rcases Command.conclude_fixed fixed answered (done.length answered) with
      ⟨value, cells, concluded, holds, rfl⟩ | ⟨port, echoed, rest, asked, rfl, other, concluded⟩
    · rw [concluded]
      exact .value holds done
    · rw [concluded]
      exact .elsewhere asked other done
  · rcases fulfilled_or_failed settled answered start with done | ⟨e, after, failed, about⟩
    · exact absurd done either
    · rw [failed]
      exact .failed about fun payload after done => either ⟨payload, after, done⟩

/-- An answer comes from the reply in which it is written. -/
theorem Fulfilled.holds {payload : Bytes} {value : command.Answer} (fixed : command.fixed)
    (done : Fulfilled command payload start after) (ended : (perform command start).1 = .ok value) :
    ∃ cells, command.Holds value cells ∧ payload = written cells := by
  have reads := perform_reads fixed start
  generalize perform command start = result at reads ended
  cases reads with
  | value holds done' =>
    cases ended
    exact ⟨_, holds, (done.unique done').1⟩
  | elsewhere => cases ended
  | failed => cases ended

/-- A value is read from every reply in which it is written, two replies bring one value only if
they say the same, and a port is told apart from the port that was asked for. -/
theorem replies_laid_out :
    (∀ command value cells, command.Holds value cells →
      let reply := 0x02 :: command.opcode.byte :: 0 :: written cells
      command.opcode.replyLength? = some reply.length ∧ (∀ cell ∈ cells, cell.StandsIn reply) ∧
      ∀ start after : Connection σ, Fulfilled command (written cells) start after →
        perform command start = (.ok value, after)) ∧
    (∀ command, command.fixed → ∀ (payload payload' : Bytes) (start start' : Connection σ)
      (after after' : Connection σ), Fulfilled command payload start after →
      Fulfilled command payload' start' after' → ∀ value, (perform command start).1 = .ok value →
      (perform command start').1 = .ok value → command.SamePayload payload payload') ∧
    ∀ command port, command.port? = some port → ∀ start : Connection σ,
      (∀ expected actual, (perform command start).1 = .error (.portMismatch expected actual) ↔
        expected = port ∧ actual ≠ port ∧
          ∃ rest after, Fulfilled command (actual :: rest) start after) ∧
      ∀ value, (perform command start).1 = .ok value → command.names? value = some port ∧
        ∃ rest after, Fulfilled command (port :: rest) start after := by
  refine ⟨?_, ?_, ?_⟩
  · intro command value cells holds reply
    obtain ⟨size, answered, adjoining⟩ := holds.adjoining
    refine ⟨?_, ?_, ?_⟩
    · rw [answered, ← length_written adjoining]
      congr 1
      simp only [reply, List.length_cons]
      omega
    · exact stand_of_drop adjoining (List.append_nil _).symm
    · intro start after done
      rw [perform_fulfilled done, holds.conclude]
  · intro command fixed payload payload' start start' after after' done done' value ended ended'
    obtain ⟨cells, holds, rfl⟩ := done.holds fixed ended
    obtain ⟨cells', holds', rfl⟩ := done'.holds fixed ended'
    exact holds.samePayload holds'
  · -- A query for a port ends in one of three ways, and each of them is told from the others.
    intro command port asked start
    have reads := perform_reads (Command.fixed_of_port asked) start
    generalize perform command start = result at reads
    cases reads with
    | value holds done =>
      obtain ⟨rest, rfl⟩ := holds.starts asked
      refine ⟨fun expected actual => ⟨nofun, ?_⟩, ?_⟩
      · rintro ⟨_, other, rest', after', done'⟩
        cases (done.unique done').1
        exact absurd rfl other
      · rintro _ ⟨⟩
        exact ⟨holds.names.trans asked, written rest, _, done⟩
    | elsewhere asked' other done =>
      cases asked.symm.trans asked'
      refine ⟨fun expected actual => ⟨?_, ?_⟩, nofun⟩
      · rintro ⟨⟩
        exact ⟨rfl, other, _, _, done⟩
      · rintro ⟨rfl, _, rest', after', done'⟩
        cases (done.unique done').1
        rfl
    | failed about never =>
      refine ⟨fun expected actual => ⟨?_, ?_⟩, nofun⟩
      · rintro ⟨⟩
        cases about
      · rintro ⟨_, _, rest, after, done⟩
        exact absurd done (never _ _)

/-- Counters below zero are read from their reply, and the same reply is refused for another
output. -/
theorem replies_laid_out_negative :
    let reading : OutputReading :=
      { port := .b, power := -100, mode := ⟨7⟩, regulation := ⟨1⟩, turnRatio := -1,
        runState := ⟨32⟩, tachoLimit := 4294967295, tachoCount := -360,
        blockTachoCount := -2147483648, rotationCount := 258 }
    let payload : Bytes := [1, 156, 7, 1, 255, 32, 255, 255, 255, 255, 152, 254, 255, 255,
      0, 0, 0, 128, 2, 1, 0, 0]
    let start : Connection Rehearsal :=
      .overMessages { supply := .packets [0x02 :: 0x06 :: 0 :: payload] }
    Command.Holds (.getOutputState .b) reading reading.cells ∧
    (perform (.getOutputState .b) start).1 = .ok reading ∧
    (perform (.getOutputState .a) start).1 = .error (.portMismatch 0 1) := by
  intro reading payload start
  obtain ⟨_, done⟩ : ∃ after, Fulfilled (.getOutputState .b) payload start after :=
    fulfilled_rehearsed rfl rfl rfl
  obtain ⟨_, strange⟩ : ∃ after, Fulfilled (.getOutputState .a) payload start after :=
    fulfilled_rehearsed rfl rfl rfl
  obtain ⟨brings, _, tells⟩ := replies_laid_out (σ := Rehearsal)
  have holds : Command.Holds (.getOutputState .b) reading reading.cells := .output reading rfl
  have same : payload = written reading.cells := by decide +kernel
  refine ⟨holds, ?_, ?_⟩
  · obtain ⟨_, _, read⟩ := brings _ _ _ holds
    rw [read start _ (same ▸ done)]
  · exact ((tells (.getOutputState .a) 0 rfl start).1 0 1).mpr
      ⟨rfl, by decide, payload.tail, _, strange⟩

end Connection
end BrickControl
