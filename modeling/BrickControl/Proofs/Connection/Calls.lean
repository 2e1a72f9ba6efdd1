import BrickControl.Connection
import BrickControl.Proofs.Envelope.Receiving

/-!
# The calls of a connection

What a write and a read of a connection ask of its backend, whether messages are framed or not: the
calls stop at the first failure, which is the failure of the whole in the terms of a command.
-/
namespace BrickControl

open Exchange

/-- How a failure below shows in a command. -/
inductive Routed : TransportError → CommandError → Prop where
  | io (cause : IoError) : Routed (.io cause) (.transport (.io cause))
  | usb (fault : Usb.Fault) : Routed (.usb fault) (.transport (.usb fault))
  | disconnected : Routed .disconnected (.transport .disconnected)
  | connect (address : String) (cause : IoError) :
      Routed (.connect address cause) (.cannotConnect (.connect address cause))
  | deviceNotFound (vendor product : UInt16) :
      Routed (.deviceNotFound vendor product) (.cannotConnect (.deviceNotFound vendor product))
  | claim (vendor product : UInt16) (fault : Usb.Fault) :
      Routed (.claim vendor product fault) (.cannotConnect (.claim vendor product fault))
  | nameNotFound (name : String) :
      Routed (.nameNotFound name) (.cannotConnect (.nameNotFound name))
  | discovery (cause : IoError) : Routed (.discovery cause) (.cannotConnect (.discovery cause))
  | invalidAddress (text : String) :
      Routed (.invalidAddress text) (.cannotConnect (.invalidAddress text))
  | unsupported (backend : String) : Routed (.unsupported backend) (.backendUnavailable backend)
  | closed : Routed .closed .entityClosed

/-- Every failure below shows in one way. -/
theorem routed_iff {cause : TransportError} {e : CommandError} :
    Routed cause e ↔ e = .ofTransport cause := by
  constructor
  · intro routed
    cases routed <;> rfl
  · rintro rfl
    cases cause <;> constructor

namespace Framing

/-- The failure of the whole at which a call ends it. On a stream a call that moves nothing is one
as well. -/
def fault? : Framing → Exchange → Option CommandError
  | .message, call => (failure? call.reported).map .ofTransport
  | .stream, call => call.fault?.map .ofTransport

/-- A call that was cut short is made again on a stream alone. -/
def repeats : Framing → Exchange → Bool
  | .message, _ => false
  | .stream, call => call.interrupted

section

variable {framing : Framing} {call : Exchange} {e : TransportError}

/-- A call that failed ends the whole, on a stream unless it was cut short. -/
theorem fault_of_error (failed : call.reported = .error e)
    (final : framing = .message ∨ e.isInterruption = false) :
    framing.fault? call = some (.ofTransport e) := by
  obtain ⟨ask, reported⟩ := call
  cases failed
  cases framing with
  | message => rfl
  | stream =>
    rcases final with message | final
    · cases message
    · simp [fault?, final]

/-- On a stream a call that moves nothing tells that the peer is gone. -/
theorem fault_of_nothing (nothing : call.reported = .ok 0) :
    Framing.stream.fault? call = some (.transport .disconnected) := by
  obtain ⟨ask, reported⟩ := call
  cases nothing
  rfl

theorem fault_cause {fault : CommandError} (faulty : framing.fault? call = some fault) :
    ∃ cause, fault = .ofTransport cause ∧
      (call.reported = .error cause ∨ cause = .disconnected) := by
  obtain ⟨ask, reported⟩ := call
  cases framing with
  | message =>
    obtain ⟨cause, failed, rfl⟩ := Option.map_eq_some_iff.mp faulty
    exact ⟨cause, rfl, .inl (error_of_failure failed)⟩
  | stream =>
    obtain ⟨cause, found, rfl⟩ := Option.map_eq_some_iff.mp faulty
    refine ⟨cause, rfl, ?_⟩
    -- On a stream nothing at all is a fault as well.
    rcases reported with e | _ | n
    · rw [fault_error] at found
      split at found
      · cases found
      · cases found
        exact .inl rfl
    · cases found
      exact .inr rfl
    · cases found

theorem repeats_of_error (failed : call.reported = .error e) :
    Framing.stream.repeats call = e.isInterruption := by
  obtain ⟨ask, reported⟩ := call
  cases failed
  rfl

end

end Framing

namespace Connection

/-- The calls that write one message, and their outcome. -/
structure Wrote (framing : Framing) (data : Bytes) (calls : List Exchange)
    (outcome : Except CommandError Nat) : Prop where
  heeds : Heeds framing.fault? framing.repeats (failure? outcome) calls
  writes : ∀ call ∈ calls, ∃ offered, call.ask = .write offered
  message : framing = .message → ∃ reported, calls = [⟨.write data, reported⟩] ∧
    outcome = reported.mapError .ofTransport
  stream : framing = .stream → ∀ n, outcome = .ok n →
    n = data.length ∧ calls.flatMap taken = Envelope.wrap data
  caused : ∀ e, outcome = .error e → (∃ call ∈ calls, framing.fault? call = some e) ∨
    ∃ size max, e = .framing (.bodyTooLarge size max)

/-- The calls that read one message, and their outcome. -/
structure Heard (framing : Framing) (calls : List Exchange)
    (outcome : Except CommandError Nat) : Prop where
  heeds : Heeds framing.fault? framing.repeats (failure? outcome) calls
  reads : ∀ call ∈ calls, ∃ room, call.ask = .read room
  caused : ∀ e, outcome = .error e → (∃ call ∈ calls, framing.fault? call = some e) ∨
    ∃ got, e = .framing (.shortHeader got)

variable {σ : Type} [Backend σ]

theorem heeds_single (ask : Ask) (reported : Except TransportError Nat) :
    Heeds Framing.message.fault? Framing.message.repeats
      (failure? (reported.mapError CommandError.ofTransport)) [⟨ask, reported⟩] := by
  refine .single ?_ rfl
  intro e fault
  cases reported with
  | ok n => cases fault
  | error cause => exact fault

theorem caused_single {ask : Ask} {reported : Except TransportError Nat} {e : CommandError}
    (failed : reported.mapError CommandError.ofTransport = .error e) :
    ∃ call ∈ [(⟨ask, reported⟩ : Exchange)], Framing.message.fault? call = some e := by
  cases reported with
  | ok n => cases failed
  | error cause =>
    cases failed
    exact ⟨_, List.mem_singleton_self _, rfl⟩

/-! ### On a stream -/

/-- The end of a transfer in pieces as the end of a call of a connection. -/
def ofStream {α : Type} (a : α) (ended : Except TransportError Unit) : Except CommandError α :=
  (ended.mapError .ofTransport).map fun _ => a

/-- The layers above the envelope rename a failure, and leave the count to the connection. -/
theorem ofStream_eq {α : Type} (a : α) (ended : Except TransportError Unit) :
    ((ended.mapError FrameError.transport).map fun _ => a).mapError CommandError.ofFrame =
      ofStream a ended := by
  cases ended with
  | ok => rfl
  | error e => rfl

theorem ofStream_heeds {α : Type} (a : α) {ended : Except TransportError Unit}
    {calls : List Exchange} (heeds : Heeds fault? interrupted (failure? ended) calls) :
    Heeds Framing.stream.fault? Framing.stream.repeats (failure? (ofStream a ended)) calls := by
  have same : failure? (ofStream a ended) = (failure? ended).map .ofTransport := by
    cases ended with
    | ok => rfl
    | error e => rfl
  rw [same]
  exact heeds.map CommandError.ofTransport

theorem ofStream_caused {α : Type} {a : α} {ended : Except TransportError Unit}
    {calls : List Exchange} {e : CommandError}
    (fault : ∀ cause, ended = .error cause → ∃ call ∈ calls, call.fault? = some cause)
    (failed : ofStream a ended = .error e) :
    ∃ call ∈ calls, Framing.stream.fault? call = some e := by
  cases ended with
  | ok => cases failed
  | error cause =>
    cases failed
    obtain ⟨call, member, same⟩ := fault cause rfl
    exact ⟨call, member, congrArg (Option.map CommandError.ofTransport) same⟩

private theorem write_stream {data : Bytes} (small : data.length ≤ Envelope.maxBody) (state : σ) :
    write data ⟨.stream, true, state⟩ =
      (ofStream data.length (Envelope.sendAll (Envelope.wrap data) state).1,
        ⟨.stream, true, (Envelope.sendAll (Envelope.wrap data) state).2⟩) := by
  simp only [write, if_true, Envelope.send_of_small small, ofStream_eq]

private theorem write_stream_long {data : Bytes} (long : Envelope.maxBody < data.length)
    (state : σ) : write data ⟨.stream, true, state⟩ =
      (.error (.framing (.bodyTooLarge data.length Envelope.maxBody)), ⟨.stream, true, state⟩) := by
  simp only [write, if_true, Envelope.send_of_long long]
  rfl

private theorem read_stream (buffer : Bytes) (state : σ) :
    read buffer ⟨.stream, true, state⟩ =
      (⟨(Envelope.receive buffer state).1.outcome.mapError .ofFrame,
          (Envelope.receive buffer state).1.buffer⟩,
        ⟨.stream, true, (Envelope.receive buffer state).2⟩) := by
  simp only [read, if_true]

/-- What a connection writes is one call with the message, or pieces that together are its envelope
unless one of them failed. -/
theorem write_wrote [Backend.Patient σ] (framing : Framing) (data : Bytes)
    (state : Journaled σ) :
    ∃ calls outcome after, write data ⟨framing, true, state⟩ = (outcome, ⟨framing, true, after⟩) ∧
      after.journal = state.journal ++ calls ∧ Wrote framing data calls outcome := by
  cases framing with
  -- On a message link the journal has the one call, and its report is the outcome.
  | message =>
    refine ⟨_, _, _, rfl, Journaled.write_journal data state, heeds_single _ _, ?_, ?_, nofun, ?_⟩
    · simp
    · exact fun _ => ⟨_, rfl, rfl⟩
    · exact fun e failed => .inl (caused_single failed)
  | stream =>
    by_cases small : data.length ≤ Envelope.maxBody
    · obtain ⟨calls, grown, moves⟩ :=
        Envelope.sendAll_moves (Envelope.wrap data) (Envelope.wrap data) 0 rfl state
      refine ⟨calls, _, _, write_stream small state, grown, ?_⟩
      generalize (Envelope.sendAll (Envelope.wrap data) state).1 = ended at moves
      refine ⟨ofStream_heeds _ moves.heeds, moves.writes, nofun, ?_, ?_⟩
      · -- All pieces together are the whole envelope, because the last one ended it.
        rintro - n wrote
        cases ended with
        | error e => cases wrote
        | ok =>
          cases wrote
          have whole := moves.ok_iff_whole.mp rfl
          rw [Nat.zero_add] at whole
          exact ⟨rfl, moves.taken_eq.trans (List.take_of_length_le whole)⟩
      · intro e failed
        refine .inl (ofStream_caused ?_ failed)
        rintro cause rfl
        exact moves.error_fault
    · have long : Envelope.maxBody < data.length := Nat.lt_of_not_le small
      refine ⟨[], _, _, write_stream_long long state, (List.append_nil _).symm, ?_⟩
      refine ⟨trivial, by simp, nofun, ?_, ?_⟩
      · rintro - n ⟨⟩
      · rintro e ⟨⟩
        exact .inr ⟨_, _, rfl⟩

section

variable {field : Filled TransportError} (ask : Ask)

private theorem fault_of_length {n : Nat} (length : Envelope.lengthOf field = .ok n) :
    fault? ⟨ask, field.outcome⟩ = none ∧ interrupted ⟨ask, field.outcome⟩ = false := by
  obtain ⟨e | _ | n, held⟩ := field
  · cases length
  · cases length
  · exact ⟨rfl, rfl⟩

/-- A length field that cannot be used was not given, or it was given in part. -/
theorem fault_of_no_length {e : FrameError}
    (final : interrupted ⟨ask, field.outcome⟩ = false)
    (failed : Envelope.lengthOf field = .error e) :
    (∃ cause, fault? ⟨ask, field.outcome⟩ = some cause ∧ e = .transport cause) ∨
      fault? ⟨ask, field.outcome⟩ = none ∧ ∃ got, e = .shortHeader got := by
  obtain ⟨cause | _ | n, held⟩ := field
  · cases failed
    rw [interrupted_error] at final
    exact .inl ⟨cause, by simp [final], rfl⟩
  · cases failed
    exact .inl ⟨_, rfl, rfl⟩
  · simp only [Envelope.lengthOf] at failed
    split at failed
    · cases failed
    · cases failed
      exact .inr ⟨rfl, _, rfl⟩

end

/-- Without a length there are only the calls for it. -/
theorem headless_heard {calls : List Exchange} {reported : Except TransportError Nat} {room : Nat}
    {e : FrameError} (settles : Settles (.read room) reported calls)
    (final : interrupted ⟨.read room, reported⟩ = false)
    (cause : (∃ cause, fault? ⟨.read room, reported⟩ = some cause ∧ e = .transport cause) ∨
      fault? ⟨.read room, reported⟩ = none ∧ ∃ got, e = .shortHeader got) :
    Heard .stream calls (.error (.ofFrame e)) := by
  have reads : ∀ call ∈ calls, ∃ asked, call.ask = .read asked :=
    fun call member => ⟨room, settles.ask_eq call member⟩
  rcases cause with ⟨cause, fault, rfl⟩ | ⟨fine, got, rfl⟩
  · have heeds : Heeds fault? interrupted (some cause) calls :=
      settles.heeds (fun e same => by rw [← fault, same]) final
    refine ⟨heeds.map CommandError.ofTransport, reads, ?_⟩
    rintro e ⟨⟩
    obtain ⟨cut, rfl, _⟩ := settles.split
    exact .inl ⟨_, List.mem_append_right _ (List.mem_singleton_self _),
      congrArg (Option.map CommandError.ofTransport) fault⟩
  · -- No call has a fault; the failure is made of what was read.
    have heeds : Heeds fault? interrupted none calls :=
      settles.heeds (fun e same => by rw [fine] at same; cases same) final
    refine ⟨(heeds.map CommandError.ofTransport).anyhow _, reads, ?_⟩
    rintro e ⟨⟩
    exact .inr ⟨got, rfl⟩

/-- The calls for the body come behind those for its length, and a fault among them is the failure
of the whole. -/
private theorem body_heard {tries rest : List Exchange} {reported : Except TransportError Nat}
    {asked length room n : Nat} {ended : Except TransportError Unit}
    (settles : Settles (.read asked) reported tries)
    (fine : fault? ⟨.read asked, reported⟩ = none)
    (final : interrupted ⟨.read asked, reported⟩ = false)
    (takes : TakesBody length room rest ended) :
    Heard .stream (tries ++ rest) (ofStream n ended) := by
  have heeds : Heeds fault? interrupted none tries :=
    settles.heeds (fun e same => by rw [fine] at same; cases same) final
  refine ⟨ofStream_heeds n (heeds.append takes.heeds), ?_, ?_⟩
  · rw [List.forall_mem_append]
    exact ⟨fun call member => ⟨asked, settles.ask_eq call member⟩, takes.reads⟩
  · intro e failed
    refine .inl (ofStream_caused ?_ failed)
    rintro cause rfl
    obtain ⟨call, member, fault⟩ := takes.error_fault
    exact ⟨call, List.mem_append_right _ member, fault⟩

private theorem receive_heard_stream [Backend.Patient σ] (buffer : Bytes) (state : Journaled σ) :
    ∃ calls, (Envelope.receive buffer state).2.journal = state.journal ++ calls ∧
      Heard .stream calls ((Envelope.receive buffer state).1.outcome.mapError .ofFrame) := by
  have headed := Envelope.receiveHeader_eq state
  obtain ⟨tries, journal, settles⟩ :=
    Journaled.steadyRead_settles (List.replicate Envelope.headerSize 0) state
  have patient := Backend.Patient.read (List.replicate Envelope.headerSize 0) state
  generalize Backend.steadyRead (List.replicate Envelope.headerSize 0) state = field at *
  have final (room : Nat) : interrupted ⟨.read room, field.1.outcome⟩ = false := by
    cases reported : field.1.outcome with
    | ok n => rfl
    | error e => exact patient e reported
  -- The length decides whether the body is read at all.
  cases length : Envelope.lengthOf field.1 with
  | error e =>
    rw [length] at headed
    rw [Envelope.receive_headless headed]
    exact ⟨tries, journal,
      headless_heard settles (final _) (fault_of_no_length _ (final _) length)⟩
  | ok n =>
    rw [length] at headed
    obtain ⟨fine, final⟩ :=
      fault_of_length (.read (List.replicate Envelope.headerSize 0).length) length
    obtain ⟨rest, ended, grown, takes, outcome, _⟩ := Envelope.receive_body buffer headed
    rw [outcome, ofStream_eq]
    exact ⟨tries ++ rest, by rw [grown, journal, List.append_assoc],
      body_heard settles fine final takes⟩

/-- What a connection reads is one call, or the calls for a length and for a body, none of them
after a fault. -/
theorem read_heard [Backend.Patient σ] (framing : Framing) (buffer : Bytes)
    (state : Journaled σ) :
    ∃ calls filled after, read buffer ⟨framing, true, state⟩ = (filled, ⟨framing, true, after⟩) ∧
      after.journal = state.journal ++ calls ∧ Heard framing calls filled.outcome := by
  cases framing with
  | message =>
    refine ⟨_, _, _, rfl, Journaled.readOnce_journal buffer state, heeds_single _ _, ?_, ?_⟩
    · simp
    · exact fun e failed => .inl (caused_single failed)
  | stream =>
    obtain ⟨calls, grown, heard⟩ := receive_heard_stream buffer state
    exact ⟨calls, _, _, read_stream buffer state, grown, heard⟩

end Connection
end BrickControl
