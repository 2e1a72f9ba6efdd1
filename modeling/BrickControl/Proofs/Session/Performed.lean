import BrickControl.Proofs.Session.Operation

/-!
# How a command ends

A command is refused for its arguments, or it fails to write its request, or to read its reply, or
it makes something of the reply. `Performed` has a case for each, and every command ends in one of
them. From the cases follows where a failure comes from: the brick's own refusals are exactly the
complete replies with a status.
-/
namespace BrickControl

/-! ### What a reply is made of -/

/-- Whatever the reader takes off the front of a payload, its result is of this sort. -/
def FieldReader.Returns {α : Type} (reader : FieldReader α) (good : α → Prop) : Prop :=
  ∀ data a rest, reader data = some (a, rest) → good a

namespace FieldReader

variable {α β : Type} {good : α → Prop} {good' : β → Prop}

theorem returns_pure {a : α} (holds : good a) : (pure a : FieldReader α).Returns good := by
  intro data b rest ended
  cases ended
  exact holds

theorem Returns.bind {reader : FieldReader α} {next : α → FieldReader β}
    (second : ∀ a, (next a).Returns good') : (reader >>= next).Returns good' := by
  intro data b rest ended
  obtain ⟨⟨a, between⟩, _, ended⟩ := Option.bind_eq_some_iff.mp ended
  exact second a between b rest ended

theorem Returns.map {reader : FieldReader α} {f : α → β} (holds : ∀ a, good' (f a)) :
    (f <$> reader).Returns good' := by
  rw [map_eq_pure_bind]
  exact .bind fun a => returns_pure (holds a)

theorem Returns.ite {c : Prop} [Decidable c] {yes no : FieldReader α} (first : yes.Returns good)
    (second : no.Returns good) : (if c then yes else no).Returns good := by
  split
  · exact first
  · exact second

theorem Returns.run {reader : FieldReader α} (returns : reader.Returns good) {data : Bytes} {a : α}
    (ended : reader.run' data = some a) : good a := by
  obtain ⟨⟨b, rest⟩, read, rfl⟩ := Option.map_eq_some_iff.mp ended
  exact returns data b rest read

end FieldReader

/-- All that can be wrong with the fields of an answer is the port. -/
def NamesOtherPort {α : Type} (outcome : Except CommandError α) : Prop :=
  ∀ e, outcome = .error e → ∃ expected actual, e = .portMismatch expected actual

theorem namesOtherPort_ok {α : Type} (a : α) : NamesOtherPort (.ok a : Except CommandError α) := by
  rintro e ⟨⟩

theorem namesOtherPort_mismatch {α : Type} (expected actual : UInt8) :
    NamesOtherPort (.error (.portMismatch expected actual) : Except CommandError α) := by
  intro e same
  cases same
  exact ⟨expected, actual, rfl⟩

private theorem readOutput_returns (port : OutputPort) :
    (Command.readOutput port).Returns NamesOtherPort := by
  refine .bind fun echoed => .ite ?_ ?_
  · exact FieldReader.returns_pure (namesOtherPort_mismatch _ _)
  · repeat refine .bind fun _ => ?_
    exact FieldReader.returns_pure (namesOtherPort_ok _)

private theorem readInput_returns (port : InputPort) :
    (Command.readInput port).Returns NamesOtherPort := by
  refine .bind fun echoed => .ite ?_ ?_
  · exact FieldReader.returns_pure (namesOtherPort_mismatch _ _)
  · repeat refine .bind fun _ => ?_
    exact FieldReader.returns_pure (namesOtherPort_ok _)

namespace Command

private theorem decode_namesOtherPort {command : Command} {payload : Bytes}
    {outcome : Except CommandError command.Answer}
    (decoded : command.decode? payload = some outcome) : NamesOtherPort outcome := by
  cases command with
  | getOutputState port => exact (readOutput_returns port).run decoded
  | getInputValues port => exact (readInput_returns port).run decoded
  | getBatteryLevel => exact (FieldReader.Returns.map namesOtherPort_ok).run decoded
  | keepAlive => exact (FieldReader.Returns.map namesOtherPort_ok).run decoded
  | lsGetStatus => exact (FieldReader.Returns.map namesOtherPort_ok).run decoded
  | lsRead => exact (FieldReader.Returns.map namesOtherPort_ok).run decoded
  | getCurrentProgramName => exact (FieldReader.Returns.map namesOtherPort_ok).run decoded
  | messageRead => exact (FieldReader.Returns.map namesOtherPort_ok).run decoded
  | _ =>
    cases decoded
    exact namesOtherPort_ok ()

/-- What is wrong with an answer that was not refused lies in its fields. -/
theorem conclude_error {command : Command} {payload : Bytes} {e : CommandError}
    (failed : command.conclude payload = .error e) :
    (∃ expected actual, e = .portMismatch expected actual) ∨
      ∃ expected actual, e = .framing (.shortReply expected actual) := by
  simp only [conclude] at failed
  split at failed
  next decoded => exact .inl (decode_namesOtherPort decoded e failed)
  next =>
    cases failed
    exact .inr ⟨_, _, rfl⟩

/-- A command without a reply always ends well once its request is written. -/
private theorem conclude_silent {command : Command} (silent : command.opcode.replyLength? = none) :
    ∃ answer, command.conclude [] = .ok answer := by
  cases command <;> first | exact ⟨(), rfl⟩ | cases silent

end Command

/-- A reply that is refused is no reply to the command, or it is a whole one with a status. -/
theorem validate_error {op : Opcode} {size count : Nat} {held : Bytes} {e : CommandError}
    (failed : validate op size count held = .error e) :
    (∃ violation, e = .framing violation) ∨
      ∃ status payload, count = size ∧ held = Limits.replyMarker :: op.byte :: status :: payload ∧
        status ≠ 0 ∧ e = .device (.ofCode status) := by
  -- In the order of the checks: length, marker, opcode, and then the status.
  simp only [validate] at failed
  split at failed
  · cases failed
    exact .inl ⟨_, rfl⟩
  next whole =>
    split at failed
    next marker echoed status payload =>
      split at failed
      · cases failed
        exact .inl ⟨_, rfl⟩
      next marked =>
        split at failed
        · cases failed
          exact .inl ⟨_, rfl⟩
        next own =>
          split at failed
          · cases failed
          next refused =>
            split at failed
            · cases failed
            · cases failed
              rw [Decidable.not_not] at whole marked own
              exact .inr ⟨status, payload, whole, by rw [marked, own], refused, rfl⟩
    · cases failed
      exact .inl ⟨_, rfl⟩

/-- A status other than success refuses the reply, except for the status of a sensor. -/
private theorem validate_status {op : Opcode} {size : Nat} {status : UInt8} {payload : Bytes}
    (settled : op ≠ .lsGetStatus) (refused : status ≠ 0) :
    validate op size size (Limits.replyMarker :: op.byte :: status :: payload) =
      .error (.device (.ofCode status)) := by
  simp [validate, settled, refused]

theorem mapError_error {α ε ε' : Type} {f : ε → ε'} {outcome : Except ε α} {e : ε'}
    (failed : outcome.mapError f = .error e) : ∃ cause, outcome = .error cause ∧ e = f cause := by
  cases outcome with
  | ok a => cases failed
  | error cause =>
    cases failed
    exact ⟨cause, rfl, rfl⟩

/-- The failure comes from below a command: from its backend, or from an envelope. -/
inductive CommandError.FromBelow : CommandError → Prop where
  | transport (cause : TransportError) : FromBelow (.transport cause)
  | cannotConnect (cause : TransportError) : FromBelow (.cannotConnect cause)
  | entityClosed : FromBelow .entityClosed
  | backendUnavailable (backend : String) : FromBelow (.backendUnavailable backend)
  | shortHeader (got : Nat) : FromBelow (.framing (.shortHeader got))
  | bodyTooLarge (size max : Nat) : FromBelow (.framing (.bodyTooLarge size max))

theorem fromBelow_ofFrame (cause : FrameError) : (CommandError.ofFrame cause).FromBelow := by
  cases cause with
  | transport cause =>
    cases cause with
    | unsupported backend => exact .backendUnavailable backend
    | closed => exact .entityClosed
    -- All others are told apart by whether they were met while connecting.
    | _ => first | exact .cannotConnect _ | exact .transport _
  | shortHeader got => exact .shortHeader got
  | bodyTooLarge size max => exact .bodyTooLarge size max

namespace Connection

variable {σ : Type} [Backend σ]

/-- The ways in which a command can end. -/
inductive Performed (command : Command) (start : Connection σ) :
    Except CommandError command.Answer × Connection σ → Prop where
  | refused {e : CommandError} (refused : command.check = .error e) :
      Performed command start (.error e, start)
  | unwritten {e : CommandError} {after : Connection σ} (accepted : command.check = .ok ())
      (failed : write command.request start = (.error e, after)) :
      Performed command start (.error e, after)
  | cut {n : Nat} {after : Connection σ} (accepted : command.check = .ok ())
      (wrote : write command.request start = (.ok n, after)) (short : n ≠ command.request.length) :
      Performed command start (.error (.framing (.shortWrite command.request.length n)), after)
  | silent {after : Connection σ} (accepted : command.check = .ok ())
      (silent : command.opcode.replyLength? = none)
      (wrote : write command.request start = (.ok command.request.length, after)) :
      Performed command start (command.conclude [], after)
  | unread {e : CommandError} {size : Nat} {held : Bytes} {sent after : Connection σ}
      (accepted : command.check = .ok ()) (length : command.opcode.replyLength? = some size)
      (wrote : write command.request start = (.ok command.request.length, sent))
      (failed : read (List.replicate size 0) sent = (⟨.error e, held⟩, after)) :
      Performed command start (.error e, after)
  | invalid {e : CommandError} {size count : Nat} {held : Bytes} {sent after : Connection σ}
      (accepted : command.check = .ok ()) (length : command.opcode.replyLength? = some size)
      (wrote : write command.request start = (.ok command.request.length, sent))
      (heard : read (List.replicate size 0) sent = (⟨.ok count, held⟩, after))
      (invalid : validate command.opcode size count held = .error e) :
      Performed command start (.error e, after)
  | valid {size count : Nat} {held reply : Bytes} {sent after : Connection σ}
      (accepted : command.check = .ok ()) (length : command.opcode.replyLength? = some size)
      (wrote : write command.request start = (.ok command.request.length, sent))
      (heard : read (List.replicate size 0) sent = (⟨.ok count, held⟩, after))
      (valid : validate command.opcode size count held = .ok reply) :
      Performed command start (command.conclude (reply.drop replyHeaderLength), after)

section

variable {command : Command} {start sent after : Connection σ} {e : CommandError}

theorem transmit_failed {request : Bytes} (failed : write request start = (.error e, after)) :
    (transmit request).run start = (.error e, after) := by
  have ended : (write request).run start = (.error e, after) := failed
  exact Act.bind_run_error ended _

theorem transmit_cut {request : Bytes} {n : Nat} (wrote : write request start = (.ok n, after))
    (short : n ≠ request.length) :
    (transmit request).run start = (.error (.framing (.shortWrite request.length n)), after) := by
  have ended : (write request).run start = (.ok n, after) := wrote
  rw [transmit, Act.bind_run_ok ended]
  simp only [short, ne_eq, not_false_eq_true, if_true, Act.fail_run]

theorem receive_failed {size : Nat} {op : Opcode} {held : Bytes} (header : replyHeaderLength ≤ size)
    (failed : read (List.replicate size 0) sent = (⟨.error e, held⟩, after)) :
    (receive size op).run sent = (.error e, after) := by
  have enough : ¬ size < replyHeaderLength := by omega
  simp only [Act.run, receive, if_neg enough, failed]

end

/-- Every command ends in one of these ways. -/
theorem perform_performed (command : Command) (start : Connection σ) :
    Performed command start (perform command start) := by
  -- One case for each point at which a command can end, in the order in which it gets there.
  cases accepted : command.check with
  | error e =>
    rw [perform_refused accepted]
    exact .refused accepted
  | ok =>
    cases wrote : write command.request start with
    | mk written sent =>
      cases written with
      | error e =>
        rw [perform_unsent accepted (transmit_failed wrote)]
        exact .unwritten accepted wrote
      | ok n =>
        by_cases whole : n = command.request.length
        · subst whole
          cases length : command.opcode.replyLength? with
          | none =>
            rw [perform_silent accepted length wrote [], Command.interpret, length]
            exact .silent accepted length wrote
          | some size =>
            have header := replyHeaderLength_le_of_replyLength length
            cases heard : read (List.replicate size 0) sent with
            | mk filled after =>
              obtain ⟨outcome, held⟩ := filled
              cases outcome with
              | error e =>
                rw [perform_received accepted length wrote (receive_failed header heard)]
                exact .unread accepted length wrote heard
              | ok count =>
                have received := receive_heard command.opcode header heard
                cases valid : validate command.opcode size count held with
                | error e =>
                  rw [valid] at received
                  rw [perform_received accepted length wrote received]
                  exact .invalid accepted length wrote heard valid
                | ok reply =>
                  rw [valid] at received
                  rw [perform_received accepted length wrote received]
                  exact .valid accepted length wrote heard valid
        · rw [perform_unsent accepted (transmit_cut wrote whole)]
          exact .cut accepted wrote whole

/-- The request went out whole, and the whole reply has the marker, the opcode of the command and
this status. -/
def Answered (start : Connection σ) (command : Command) (status : UInt8) : Prop :=
  ∃ size payload sent after, command.opcode.replyLength? = some size ∧
    write command.request start = (.ok command.request.length, sent) ∧
    read (List.replicate size 0) sent =
      (⟨.ok size, Limits.replyMarker :: command.opcode.byte :: status :: payload⟩, after)

/-- A failure to move a message comes from below. -/
theorem write_error {data : Bytes} {start after : Connection σ} {e : CommandError}
    (failed : write data start = (.error e, after)) : ∃ cause, e = .ofFrame cause := by
  simp only [write] at failed
  split at failed
  · split at failed
    · obtain ⟨cause, _, same⟩ := mapError_error (congrArg Prod.fst failed)
      exact ⟨.transport cause, same⟩
    · obtain ⟨cause, _, same⟩ := mapError_error (congrArg Prod.fst failed)
      exact ⟨cause, same⟩
  · cases failed
    exact ⟨.transport .closed, rfl⟩

/-- A failure to read a message comes from below as well. -/
theorem read_error {buffer held : Bytes} {start after : Connection σ} {e : CommandError}
    (failed : read buffer start = (⟨.error e, held⟩, after)) : ∃ cause, e = .ofFrame cause := by
  have outcome := congrArg (fun ended => ended.1.outcome) failed
  simp only [read] at outcome
  split at outcome
  · split at outcome
    · obtain ⟨cause, _, same⟩ := mapError_error outcome
      exact ⟨.transport cause, same⟩
    · obtain ⟨cause, _, same⟩ := mapError_error outcome
      exact ⟨cause, same⟩
  · cases outcome
    exact ⟨.transport .closed, rfl⟩

/-- The ways in which an accepted command can fail: below it, with a part of its request written, by
a reply that is refused, or by the fields of one that is not. -/
inductive Failed (command : Command) (start : Connection σ) : CommandError → Prop where
  | below (cause : FrameError) : Failed command start (.ofFrame cause)
  | cut {n : Nat} {after : Connection σ} (wrote : write command.request start = (.ok n, after))
      (short : n ≠ command.request.length) :
      Failed command start (.framing (.shortWrite command.request.length n))
  | invalid {e : CommandError} {size count : Nat} {held : Bytes} {sent after : Connection σ}
      (length : command.opcode.replyLength? = some size)
      (wrote : write command.request start = (.ok command.request.length, sent))
      (heard : read (List.replicate size 0) sent = (⟨.ok count, held⟩, after))
      (invalid : validate command.opcode size count held = .error e) : Failed command start e
  | portMismatch (expected actual : UInt8) : Failed command start (.portMismatch expected actual)
  | shortReply (expected actual : Nat) :
      Failed command start (.framing (.shortReply expected actual))

/-- Every failure of an accepted command is of one of these kinds. -/
theorem perform_failed {command : Command} {start : Connection σ} {e : CommandError}
    (accepted : command.check = .ok ()) (failed : (perform command start).1 = .error e) :
    Failed command start e := by
  have performed := perform_performed command start
  generalize perform command start = ended at performed failed
  cases performed with
  | refused refused =>
    rw [accepted] at refused
    cases refused
  | unwritten accepted unwritten =>
    cases failed
    obtain ⟨cause, rfl⟩ := write_error unwritten
    exact .below cause
  | cut accepted wrote short =>
    cases failed
    exact .cut wrote short
  | silent accepted silent wrote =>
    -- A command without a reply has no fields that could be wrong.
    obtain ⟨answer, fine⟩ := Command.conclude_silent silent
    rw [fine] at failed
    cases failed
  | unread accepted length wrote unread =>
    cases failed
    obtain ⟨cause, rfl⟩ := read_error unread
    exact .below cause
  | invalid accepted length wrote heard invalid =>
    cases failed
    exact .invalid length wrote heard invalid
  | valid =>
    rcases Command.conclude_error failed with ⟨_, _, rfl⟩ | ⟨_, _, rfl⟩
    · exact .portMismatch _ _
    · exact .shortReply _ _

/-- The brick's refusals are exactly its complete replies with a status. -/
theorem perform_device_iff {command : Command} (accepted : command.check = .ok ())
    (settled : command.opcode ≠ .lsGetStatus) (start : Connection σ) (refusal : DeviceStatus) :
    (perform command start).1 = .error (.device refusal) ↔
      ∃ status, Answered start command status ∧ status ≠ 0 ∧ refusal = .ofCode status := by
  constructor
  · intro ended
    have failed := perform_failed accepted ended
    -- A refusal by the brick can only be the status of a reply; the other failures are of other
    -- kinds.
    generalize same : CommandError.device refusal = e at failed
    cases failed with
    | below cause =>
      have below := fromBelow_ofFrame cause
      rw [← same] at below
      cases below
    | @invalid e size count held sent after length wrote heard invalid =>
      subst same
      rcases validate_error invalid with
        ⟨violation, impossible⟩ | ⟨status, payload, rfl, rfl, refused, same⟩
      · cases impossible
      · cases same
        exact ⟨status, ⟨_, payload, sent, after, length, wrote, heard⟩, refused, rfl⟩
    | _ => cases same
  · rintro ⟨status, ⟨size, payload, sent, after, length, wrote, heard⟩, refused, rfl⟩
    have header := replyHeaderLength_le_of_replyLength length
    have received := receive_heard command.opcode header heard
    rw [validate_status settled refused] at received
    rw [perform_received accepted length wrote received]
    rfl

end Connection
end BrickControl
