import BrickControl.Proofs.Connection.Calls
import BrickControl.Proofs.Session.Performed

/-!
# Where a command stops

A command makes the calls of one write and then, once its request was taken whole, those of at most
one read. `Course` says so of the journal of its backend, together with what each failure below
leads to. That nothing is called after a failure then holds at every point of the two transfers.
-/
namespace BrickControl

open Exchange

private theorem validate_ne_shortWrite (op : Opcode) (size count : Nat) (held : Bytes)
    (expected written : Nat) :
    validate op size count held ≠ .error (.framing (.shortWrite expected written)) := by
  intro failed
  simp only [validate] at failed
  -- Each check of a reply has an error of its own, and none of them is this one.
  repeat' split at failed
  all_goals cases failed

/-- The failure is about what a message says and not about moving it. -/
inductive CommandError.OfMessage : CommandError → Prop where
  | framing (violation : FramingViolation) : OfMessage (.framing violation)
  | device (status : DeviceStatus) : OfMessage (.device status)
  | portMismatch (expected actual : UInt8) : OfMessage (.portMismatch expected actual)

/-- A reply that is refused is refused for what it says. -/
theorem validate_ofMessage {op : Opcode} {size count : Nat} {held : Bytes} {e : CommandError}
    (failed : validate op size count held = .error e) : e.OfMessage := by
  rcases validate_error failed with ⟨violation, rfl⟩ | ⟨status, _, _, _, _, rfl⟩
  · exact .framing violation
  · exact .device _

private theorem Command.conclude_ofMessage {command : Command} {payload : Bytes} {e : CommandError}
    (failed : command.conclude payload = .error e) : e.OfMessage := by
  rcases conclude_error failed with ⟨_, _, rfl⟩ | ⟨_, _, rfl⟩
  · exact .portMismatch _ _
  · exact .framing _

/-- A part that fails fails the whole; calls of a part that does not say nothing about the whole. -/
theorem Heeds.part {α β ε : Type} {fault? : Exchange → Option ε} {repeated : Exchange → Bool}
    {part : Except ε α} {whole : Except ε β} {calls : List Exchange}
    (heeds : Heeds fault? repeated (failure? part) calls)
    (fails : ∀ e, part = .error e → whole = .error e) :
    Heeds fault? repeated (failure? whole) calls := by
  cases part with
  | error e =>
    rw [fails e rfl]
    exact heeds
  | ok a =>
    exact heeds.anyhow _

namespace Connection

variable {σ : Type} [Backend σ]

/-- A short write is reported where the backend took the message in part, and with what it took. -/
theorem perform_shortWrite {command : Command} {start : Connection σ} {expected written : Nat}
    (accepted : command.check = .ok ())
    (failed : (perform command start).1 = .error (.framing (.shortWrite expected written))) :
    ∃ after, write command.request start = (.ok written, after) ∧
      written ≠ command.request.length := by
  have failed := perform_failed accepted failed
  generalize same : CommandError.framing (.shortWrite expected written) = e at failed
  -- Of all the ways to fail only a cut write has this error.
  cases failed with
  | below cause =>
    have below := fromBelow_ofFrame cause
    rw [← same] at below
    cases below
  | cut wrote short =>
    cases same
    exact ⟨_, wrote, short⟩
  | invalid length wrote heard invalid =>
    subst same
    exact absurd invalid (validate_ne_shortWrite _ _ _ _ _ _)
  | portMismatch => cases same
  | shortReply => cases same

/-- The calls of a command and what they have to do with its outcome. -/
structure Course {α : Type} (framing : Framing) (request : Bytes) (writes reads : List Exchange)
    (outcome : Except CommandError α) : Prop where
  heeds : Heeds framing.fault? framing.repeats (failure? outcome) (writes ++ reads)
  offers : ∀ call ∈ writes, ∃ offered, call.ask = .write offered
  awaits : ∀ call ∈ reads, ∃ room, call.ask = .read room
  message : framing = .message → ∃ reported, writes = [⟨.write request, reported⟩] ∧
    (reads ≠ [] → reported = .ok request.length) ∧
    ∀ n, reported = .ok n → n ≠ request.length →
      outcome = .error (.framing (.shortWrite request.length n))
  stream : framing = .stream → reads ≠ [] → writes.flatMap taken = Envelope.wrap request
  caused : ∀ e, outcome = .error e →
    (∃ call ∈ writes ++ reads, framing.fault? call = some e) ∨ e.OfMessage

section

variable {α : Type} {framing : Framing} {request : Bytes} {writes reads : List Exchange}
  {outcome : Except CommandError α}

/-- A command that reads nothing. -/
theorem Wrote.course {part : Except CommandError Nat} (wrote : Wrote framing request writes part)
    (fails : ∀ e, part = .error e → outcome = .error e)
    (short : ∀ n, part = .ok n → n ≠ request.length →
      outcome = .error (.framing (.shortWrite request.length n)))
    (own : ∀ e, outcome = .error e → part = .error e ∨ e.OfMessage) :
    Course framing request writes [] outcome where
  heeds := by
    rw [List.append_nil]
    exact wrote.heeds.part fails
  offers := wrote.writes
  awaits := by simp
  message := by
    intro framed
    obtain ⟨reported, single, ended⟩ := wrote.message framed
    refine ⟨reported, single, by simp, ?_⟩
    rintro n rfl partial'
    exact short n ended partial'
  stream := by simp
  caused := by
    intro e failed
    rw [List.append_nil]
    rcases own e failed with below | own
    · rcases wrote.caused e below with fault | ⟨size, max, rfl⟩
      · exact .inl fault
      · exact .inr (.framing _)
    · exact .inr own

/-- A command that reads once its request is written. -/
theorem Wrote.course_heard {part : Except CommandError Nat}
    (wrote : Wrote framing request writes (.ok request.length)) (heard : Heard framing reads part)
    (fails : ∀ e, part = .error e → outcome = .error e)
    (own : ∀ e, outcome = .error e → part = .error e ∨ e.OfMessage) :
    Course framing request writes reads outcome where
  heeds := wrote.heeds.append (heard.heeds.part fails)
  offers := wrote.writes
  awaits := heard.reads
  message := by
    intro framed
    obtain ⟨reported, single, ended⟩ := wrote.message framed
    cases reported with
    | error e => cases ended
    | ok n =>
      cases ended
      exact ⟨_, single, fun _ => rfl, fun n same short => by cases same; exact absurd rfl short⟩
  stream := fun framed _ => (wrote.stream framed _ rfl).2
  caused := by
    intro e failed
    rcases own e failed with below | own
    · rcases heard.caused e below with ⟨call, member, fault⟩ | ⟨got, rfl⟩
      · exact .inl ⟨call, List.mem_append_right _ member, fault⟩
      · exact .inr (.framing _)
    · exact .inr own

end

/-- The journal of a command is its writes and then its reads, and they stand to its outcome as in a
`Course`. -/
theorem perform_course [Backend.Patient σ] (command : Command) (accepted : command.check = .ok ())
    (framing : Framing) (state : Journaled σ) :
    ∃ writes reads after, (perform command ⟨framing, true, state⟩).2 = ⟨framing, true, after⟩ ∧
      after.journal = state.journal ++ (writes ++ reads) ∧
      Course framing command.request writes reads (perform command ⟨framing, true, state⟩).1 := by
  have performed := perform_performed command (⟨framing, true, state⟩ : Connection (Journaled σ))
  obtain ⟨writes, part, sent, writing, grown, wrote⟩ := write_wrote framing command.request state
  have reading {size : Nat} {part : Except CommandError Nat} {held : Bytes}
      {last : Connection (Journaled σ)}
      (read : Connection.read (List.replicate size 0) ⟨framing, true, sent⟩ =
        (⟨part, held⟩, last)) :
      ∃ reads after, last = ⟨framing, true, after⟩ ∧
        after.journal = state.journal ++ (writes ++ reads) ∧ Heard framing reads part := by
    obtain ⟨reads, filled, after, ended, longer, heard⟩ :=
      read_heard framing (List.replicate size 0) sent
    cases ended.symm.trans read
    exact ⟨reads, after, rfl, by rw [longer, grown, List.append_assoc], heard⟩
  generalize perform command (⟨framing, true, state⟩ : Connection (Journaled σ)) = ended
    at performed
  -- Where the command ends with its write there are no reads; elsewhere the write went well.
  cases performed with
  | refused refused =>
    rw [accepted] at refused
    cases refused
  | unwritten accepted unwritten =>
    cases writing.symm.trans unwritten
    refine ⟨writes, [], sent, rfl, by rw [List.append_nil, grown], wrote.course ?_ ?_ ?_⟩
    · rintro e ⟨⟩
      rfl
    · rintro n ⟨⟩
    · rintro e ⟨⟩
      exact .inl rfl
  | cut accepted cut short =>
    cases writing.symm.trans cut
    refine ⟨writes, [], sent, rfl, by rw [List.append_nil, grown], wrote.course ?_ ?_ ?_⟩
    · rintro e ⟨⟩
    · rintro n ⟨⟩ -
      rfl
    · rintro e ⟨⟩
      exact .inr (.framing _)
  | silent accepted silent whole =>
    cases writing.symm.trans whole
    refine ⟨writes, [], sent, rfl, by rw [List.append_nil, grown], wrote.course ?_ ?_ ?_⟩
    · rintro e ⟨⟩
    · rintro n ⟨⟩ short
      exact absurd rfl short
    · exact fun e failed => .inr (Command.conclude_ofMessage failed)
  | unread accepted length whole unread =>
    cases writing.symm.trans whole
    obtain ⟨reads, after, rfl, longer, heard⟩ := reading unread
    refine ⟨writes, reads, after, rfl, longer, wrote.course_heard heard ?_ ?_⟩
    · rintro e ⟨⟩
      rfl
    · rintro e ⟨⟩
      exact .inl rfl
  | invalid accepted length whole read invalid =>
    cases writing.symm.trans whole
    obtain ⟨reads, after, rfl, longer, heard⟩ := reading read
    refine ⟨writes, reads, after, rfl, longer, wrote.course_heard heard ?_ ?_⟩
    · rintro e ⟨⟩
    · rintro e ⟨⟩
      exact .inr (validate_ofMessage invalid)
  | valid accepted length whole read valid =>
    cases writing.symm.trans whole
    obtain ⟨reads, after, rfl, longer, heard⟩ := reading read
    refine ⟨writes, reads, after, rfl, longer, wrote.course_heard heard ?_ ?_⟩
    · rintro e ⟨⟩
    · exact fun e failed => .inr (Command.conclude_ofMessage failed)

end Connection

/-- The failure that the caller of an operation gets. -/
def Result.error? : Result → Option CommandError
  | .answered _ outcome => failure? outcome
  | .filled ended => failure? ended.outcome

namespace Operation

theorem error?_yield (operation : Operation) (e : CommandError) :
    (operation.yield (.error e)).error? = some e := by
  cases operation <;> rfl

/-- All that an operation makes of an answer beyond its command is to see whether it has room. -/
theorem yield_error {operation : Operation} {e : CommandError}
    {outcome : Except CommandError operation.command.Answer}
    (failed : (operation.yield outcome).error? = some e) :
    outcome = .error e ∨ ∃ needed available, e = .bufferTooSmall needed available := by
  have filled {transfer : Transfer} {buffer : Bytes}
      (failed : failure? (transfer.fill buffer).outcome = some e) :
      ∃ needed available, e = .bufferTooSmall needed available := by
    simp only [Transfer.fill] at failed
    split at failed
    · cases failed
    · cases failed
      exact ⟨_, _, rfl⟩
  cases operation with
  | plain command => exact .inl (error_of_failure failed)
  | lowSpeedRead port buffer =>
    cases outcome with
    | ok transfer => exact .inr (filled failed)
    | error e' => exact .inl (error_of_failure failed)
  | messageRead remote inbox remove buffer =>
    cases outcome with
    | ok transfer => exact .inr (filled failed)
    | error e' => exact .inl (error_of_failure failed)

open Connection

/-- An operation stops at the first failure of its backend, which is its own failure, sorted by its
layer and otherwise as it was. On a stream what a signal cut short is tried again, and a call that
moves nothing is a failure too. Nothing is read before the request was taken whole. A request that
was taken in part is reported as such where there are no envelopes, and never where there are. -/
theorem perform_stops {σ : Type} [Backend σ] [Backend.Patient σ] (operation : Operation)
    (accepted : operation.command.check = .ok ()) (framing : Framing) (state : Journaled σ) :
    let request := operation.command.request
    let ended := operation.perform (⟨framing, true, state⟩ : Connection (Journaled σ))
    ∃ writes reads after, ended.2 = ⟨framing, true, after⟩ ∧
      after.journal = state.journal ++ (writes ++ reads) ∧
      (∀ call ∈ writes, ∃ offered, call.ask = .write offered) ∧
      (∀ call ∈ reads, ∃ room, call.ask = .read room) ∧
      (∀ front call back e, writes ++ reads = front ++ call :: back → call.reported = .error e →
        (framing = .stream → e.isInterruption →
          ∃ next others, back = next :: others ∧ next.ask = call.ask) ∧
        (framing = .message ∨ e.isInterruption = false →
          back = [] ∧ ∃ routed, Routed e routed ∧ ended.1 = operation.yield (.error routed))) ∧
      (framing = .stream → ∀ front call back, writes ++ reads = front ++ call :: back →
        call.reported = .ok 0 →
        back = [] ∧ ended.1 = operation.yield (.error (.transport .disconnected))) ∧
      (framing = .message → ∃ reported, writes = [⟨.write request, reported⟩] ∧
        (reads ≠ [] → reported = .ok request.length) ∧
        ∀ n, reported = .ok n → n ≠ request.length →
          ended.1 = operation.yield (.error (.framing (.shortWrite request.length n)))) ∧
      (framing = .stream → (reads ≠ [] → writes.flatMap taken = Envelope.wrap request) ∧
        ∀ expected written, ended.1.error? ≠ some (.framing (.shortWrite expected written))) := by
  intro request ended
  obtain ⟨writes, reads, after, left, grown, course⟩ :=
    perform_course operation.command accepted framing state
  have whole : ended = (operation.yield _, _) := operation.perform_eq ⟨framing, true, state⟩
  have stops {front back : List Exchange} {call : Exchange} {e : CommandError}
      (parts : writes ++ reads = front ++ call :: back) (fault : framing.fault? call = some e) :
      back = [] ∧ ended.1 = operation.yield (.error e) := by
    obtain ⟨last, failed⟩ := (parts ▸ course.heeds).stops fault
    exact ⟨last, by rw [whole, error_of_failure failed]⟩
  -- The journal and its sorting are those of the course; what is left are the failures.
  refine ⟨writes, reads, after, by rw [whole]; exact left, grown, course.offers, course.awaits,
    ?_, ?_, ?_, ?_⟩
  · intro front call back e parts failed
    constructor
    · rintro rfl interrupted
      exact (parts ▸ course.heeds).repeats (by rw [Framing.repeats_of_error failed, interrupted])
    · intro final
      obtain ⟨last, ending⟩ := stops parts (Framing.fault_of_error failed final)
      exact ⟨last, _, routed_iff.mpr rfl, ending⟩
  · rintro rfl front call back parts nothing
    exact stops parts (Framing.fault_of_nothing nothing)
  · intro framed
    obtain ⟨reported, single, awaited, short⟩ := course.message framed
    exact ⟨reported, single, awaited, fun n same partial' => by rw [whole, short n same partial']⟩
  · rintro rfl
    refine ⟨course.stream rfl, ?_⟩
    intro expected written failed
    rw [whole] at failed
    rcases yield_error failed with cut | ⟨_, _, impossible⟩
    · -- What a stream takes without a failure is the whole request.
      obtain ⟨sent, wrote, short⟩ := perform_shortWrite accepted cut
      obtain ⟨_, part, _, writing, _, course⟩ := write_wrote .stream operation.command.request state
      cases writing.symm.trans wrote
      exact short (course.stream rfl written rfl).1
    · cases impossible

/-- The request goes out in two pieces, and the body of the answer breaks off in its middle. -/
theorem perform_stops_broken :
    let cut : TransportError := .io (.bare .interrupted)
    let broken : TransportError := .usb .pipe
    let backend : Rehearsal :=
      { supply := .stream [5, 0, 2, 0x0B, 0, 0x28, 0x1F]
        writePlan := [.upTo (some 3), .fails cut]
        readPlan := [.fails cut, .upTo none, .upTo (some 2), .fails broken] }
    let operation : Operation := .plain .getBatteryLevel
    let ended :=
      operation.perform (⟨.stream, true, ⟨backend, []⟩⟩ : Connection (Journaled Rehearsal))
    operation.command.check = .ok () ∧
    ended.2.backend.journal =
      [⟨.write [2, 0, 0, 0x0B], .ok 3⟩, ⟨.write [0x0B], .error cut⟩, ⟨.write [0x0B], .ok 1⟩,
        ⟨.read 2, .error cut⟩, ⟨.read 2, .ok 2⟩, ⟨.read 5, .ok 2⟩, ⟨.read 3, .error broken⟩] ∧
    ended.1 = operation.yield (.error (.transport broken)) := by
  intro cut broken backend operation ended
  have journal : ended.2.backend.journal =
      [⟨.write [2, 0, 0, 0x0B], .ok 3⟩, ⟨.write [0x0B], .error cut⟩, ⟨.write [0x0B], .ok 1⟩,
        ⟨.read 2, .error cut⟩, ⟨.read 2, .ok 2⟩, ⟨.read 5, .ok 2⟩, ⟨.read 3, .error broken⟩] := by
    decide +kernel
  obtain ⟨writes, reads, after, left, grown, _, _, stops, _⟩ :=
    perform_stops operation rfl .stream ⟨backend, []⟩
  change ended.2 = _ at left
  rw [left] at journal
  obtain ⟨_, failed⟩ := stops [_, _, _, _, _, _] ⟨.read 3, .error broken⟩ [] broken
    (grown.symm.trans journal) rfl
  obtain ⟨_, routed, same, ending⟩ := failed (.inr rfl)
  rw [routed_iff.mp same] at ending
  exact ⟨rfl, by rw [left, journal], ending⟩

end Operation
end BrickControl
