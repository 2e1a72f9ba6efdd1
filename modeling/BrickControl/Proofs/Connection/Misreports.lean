import BrickControl.Proofs.Envelope.Indices
import BrickControl.Proofs.Session.Bounds
import BrickControl.Proofs.Session.Failures

/-!
# Counts that are not true

Whatever a backend reports, nothing of a connection gets out of range. The checked run of a use
follows each index: where one of them is out of range it has no result. It has one at every use of a
connection whose backend reports counts below `2 ^ 63`, and it is what the use comes to. So a wrong
count is at most the reason of a failure.
-/
namespace BrickControl

/-- Checks an answer, whose first three bytes are looked at one after the other. -/
def validate? (op : Opcode) (size count : Nat) (held : Bytes) :
    Option (Except CommandError Bytes) :=
  if count ≠ size then some (.error (.framing (.shortReply size count)))
  else do
    let marker ← held[0]?
    if marker ≠ Limits.replyMarker then return .error (.framing (.badMarker marker))
    else
      let echoed ← held[1]?
      if echoed ≠ op.byte then return .error (.framing (.opcodeMismatch op.byte echoed))
      else
        let status ← held[2]?
        if status = 0 then return .ok held
        else if status = pendingStatus ∧ op = .lsGetStatus then
          let payload ← held.from? replyHeaderLength
          return .ok (marker :: echoed :: 0 :: List.replicate payload.length 0)
        else return .error (.device (.ofCode status))

namespace Connection

variable {σ : Type} [Backend σ]

/-- Reads one message; only on a stream there is an index. -/
def read? (buffer : Bytes) (connection : Connection σ) :
    Option (Filled CommandError × Connection σ) :=
  match connection.isOpen, connection.framing with
  | true, .stream => do
    let (filled, backend) ← Envelope.receive? buffer connection.backend
    return (⟨filled.outcome.mapError .ofFrame, filled.buffer⟩, { connection with backend })
  | _, _ => some (read buffer connection)

/-- Writes one message. -/
def write? (data : Bytes) (connection : Connection σ) :
    Option (Except CommandError Nat × Connection σ) :=
  match connection.isOpen, connection.framing with
  | true, .stream => do
    let (outcome, backend) ← Envelope.send? data connection.backend
    return (outcome.mapError .ofFrame, { connection with backend })
  | _, _ => some (write data connection)

/-- Writes the part of a block that is in use. -/
def transmit? (whole : RequestBuffer) (connection : Connection σ) :
    Option (Except CommandError Unit × Connection σ) := do
  let request ← whole.block.upTo? whole.length
  match ← write? request connection with
  | (.error e, after) => return (.error e, after)
  | (.ok written, after) =>
    if written ≠ request.length then
      return (.error (.framing (.shortWrite request.length written)), after)
    else return (.ok (), after)

/-- Sends a request with any payload that fits. -/
def send? (mode : ReplyMode) (op : Opcode) (payload : Bytes) (connection : Connection σ) :
    Option (Except CommandError Unit × Connection σ) :=
  if payload.length > Limits.requestLength - 2 then
    some (.error (.invalidArgument "request payload too large"), connection)
  else do
    let whole ← (RequestBuffer.start mode op).put? payload
    transmit? whole connection

/-- Receives an answer of `size` bytes to a command. -/
def receive? (size : Nat) (op : Opcode) (connection : Connection σ) :
    Option (Except CommandError Bytes × Connection σ) :=
  if size < replyHeaderLength then
    some (.error (.invalidArgument "reply length shorter than its header"), connection)
  else do
    match ← read? (List.replicate size 0) connection with
    | (⟨.error e, _⟩, after) => return (.error e, after)
    | (⟨.ok count, held⟩, after) => return (← validate? op size count held, after)

end Connection

/-- Performs an operation. -/
def Operation.perform? {σ : Type} [Backend σ] (operation : Operation) (connection : Connection σ) :
    Option (Result × Connection σ) :=
  match operation.command.check with
  | .error e => some (operation.yield (.error e), connection)
  | .ok () => do
    let whole ← operation.command.lay?
    match ← Connection.transmit? whole connection with
    | (.error e, after) => return (operation.yield (.error e), after)
    | (.ok (), sent) =>
      match operation.command.opcode.replyLength? with
      | none => return (operation.yield (operation.command.conclude []), sent)
      | some size =>
        match ← Connection.receive? size operation.command.opcode sent with
        | (.error e, after) => return (operation.yield (.error e), after)
        | (.ok reply, after) =>
          let payload ← reply.from? replyHeaderLength
          return (← operation.readout? payload, after)

namespace Use

/-- The buffer for a mailbox message has its one size. -/
def Sized : Use → Prop
  | .perform operation => operation.Sized
  | _ => True

variable {σ : Type} [Backend σ]

/-- Uses a connection, with each index followed. -/
def applied? : Use → Connection σ → Option (Seen × Connection σ)
  | .read buffer, connection => do
    let (ended, after) ← Connection.read? buffer connection
    return (.filled ended, after)
  | .write data, connection => do
    let (outcome, after) ← Connection.write? data connection
    return (.written outcome, after)
  | .perform operation, connection => do
    let (result, after) ← operation.perform? connection
    return (.performed result, after)
  | .send mode op payload, connection => do
    let (outcome, after) ← Connection.send? mode op payload connection
    return (.sent outcome, after)
  | .receive size op, connection => do
    let (outcome, after) ← Connection.receive? size op connection
    return (.received outcome, after)
  | .isOpen, connection => some (Use.isOpen.apply connection)
  | .name, connection => some (Use.name.apply connection)
  | .close, connection => some (Use.close.apply connection)

end Use

/-- Uses a connection in these ways, one after the other. -/
def Connection.live? {σ : Type} [Backend σ] :
    List Use → Connection σ → Option (List Seen × Connection σ)
  | [], connection => some ([], connection)
  | use :: rest, connection => do
    let (seen, between) ← use.applied? connection
    let (others, after) ← live? rest between
    return (seen :: others, after)

/-! ### Every index is in range -/

/-- With a head of three bytes each byte that is looked at is there. -/
private theorem validate?_eq (op : Opcode) (size count : Nat) (marker echoed status : UInt8)
    (payload : Bytes) :
    validate? op size count (marker :: echoed :: status :: payload) =
      some (validate op size count (marker :: echoed :: status :: payload)) := by
  have behind : Bytes.from? (marker :: echoed :: status :: payload) replyHeaderLength =
      some payload := Bytes.from_eq (by simp [replyHeaderLength])
  simp only [validate?, validate, List.getElem?_cons_zero, List.getElem?_cons_succ, behind,
    Option.bind_eq_bind, Option.bind_some, pure, apply_ite some]

namespace Connection

variable {σ : Type} [Backend σ] {I : σ → Prop}

/-- As long as the connection is open, the invariant holds of its backend. -/
def OpenOn (I : σ → Prop) (connection : Connection σ) : Prop :=
  connection.isOpen = true → I connection.backend

variable (bounded : Backend.Bounded I)

include bounded

/-- Reading meets no index out of range as long as the invariant holds. -/
theorem read?_eq (buffer : Bytes) {connection : Connection σ} (holds : connection.OpenOn I) :
    read? buffer connection = some (read buffer connection) := by
  obtain ⟨framing, opened, backend⟩ := connection
  cases opened with
  | false => rfl
  | true =>
    cases framing with
    | message => rfl
    | stream =>
      simp only [read?, read, Envelope.receive?_eq bounded buffer (holds rfl)]
      rfl

/-- Writing meets no index out of range as long as the invariant holds. -/
theorem write?_eq (data : Bytes) {connection : Connection σ} (holds : connection.OpenOn I) :
    write? data connection = some (write data connection) := by
  obtain ⟨framing, opened, backend⟩ := connection
  cases opened with
  | false => rfl
  | true =>
    cases framing with
    | message => rfl
    | stream =>
      simp only [write?, write, Envelope.send?_eq bounded data (holds rfl)]
      rfl

/-- The part of the block that is sent lies inside of it. -/
theorem transmit?_eq {whole : RequestBuffer} (within : whole.length ≤ 64)
    {connection : Connection σ} (holds : connection.OpenOn I) :
    transmit? whole connection = some (transmit whole.laid connection) := by
  have slice : whole.block.upTo? whole.length = some whole.laid :=
    Bytes.upTo_eq (whole.size ▸ within)
  simp only [transmit?, slice, write?_eq bounded whole.laid holds, Option.bind_eq_bind,
    Option.bind_some, pure]
  rcases wrote : write whole.laid connection with ⟨e | n, after⟩
  · exact congrArg some (transmit_failed wrote).symm
  · by_cases complete : n = whole.laid.length
    · subst complete
      simp only [ne_eq, not_true_eq_false, if_false]
      exact congrArg some (transmit_whole wrote).symm
    · simp only [ne_eq, complete, not_false_eq_true, if_true]
      exact congrArg some (transmit_cut wrote complete).symm

/-- A payload that is not refused has room in the block. -/
private theorem send?_eq (mode : ReplyMode) (op : Opcode) (payload : Bytes)
    {connection : Connection σ} (holds : connection.OpenOn I) :
    send? mode op payload connection = some (send mode op payload connection) := by
  by_cases long : payload.length > Limits.requestLength - 2
  · simp only [send?, if_pos long]
    have refused : rawRequest mode op payload =
        .error (.invalidArgument "request payload too large") := if_pos long
    exact congrArg some (Act.bind_run_error (congrArg (·, connection) refused) _).symm
  · have short : payload.length ≤ 62 := Nat.not_lt.mp long
    obtain ⟨whole, put, length, built, -⟩ := @rawRequest_put mode op payload short
    simp only [send?, if_neg long, put, Option.bind_eq_bind, Option.bind_some]
    have sent : (send mode op payload).run connection = (transmit whole.laid).run connection :=
      Act.bind_run_ok (congrArg (·, connection) built) transmit
    rw [transmit?_eq bounded (by omega) holds]
    exact congrArg some sent.symm

/-- A buffer that is not refused has room for the head that is looked at. -/
theorem receive?_eq (size : Nat) (op : Opcode) {connection : Connection σ}
    (holds : connection.OpenOn I) :
    receive? size op connection = some (receive size op connection) := by
  by_cases short : size < replyHeaderLength
  · simp only [receive?, receive, if_pos short]
  · simp only [receive?, receive, if_neg short, read?_eq bounded _ holds, Option.bind_eq_bind,
      Option.bind_some]
    rcases heard : read (List.replicate size 0) connection with ⟨⟨e | count, held⟩, after⟩
    · rfl
    · obtain ⟨marker, echoed, status, payload, rfl, -⟩ := read_parts (Nat.not_lt.mp short) heard
      simp only [validate?_eq, Option.bind_some, pure]

end Connection

/-- Any use of a connection leaves it with a backend that meets the invariant, or closed. -/
theorem Use.apply_openOn {σ : Type} [Backend σ] {I : σ → Prop} (keeps : Backend.Keeps I) (use : Use)
    {connection : Connection σ} (holds : connection.OpenOn I) :
    (use.apply connection).2.OpenOn I := by
  obtain ⟨framing, opened, s⟩ := connection
  cases opened with
  | false =>
    rw [(use.apply_closed framing s).1]
    exact holds
  | true =>
    by_cases short : use = .close
    · subst short
      rintro ⟨⟩
    · obtain ⟨seen, after, applied, kept⟩ := use.apply_keeps keeps short framing true (holds rfl)
      rw [applied]
      exact fun _ => kept

section

variable {σ : Type} [Backend σ] {I : σ → Prop} (bounded : Backend.Bounded I)

include bounded

/-- Every slice that an operation takes lies inside of what it takes it from. -/
private theorem Operation.perform?_eq {operation : Operation} (sized : operation.Sized)
    {connection : Connection σ} (holds : connection.OpenOn I) :
    operation.perform? connection = some (operation.perform connection) := by
  have performed := Connection.perform_performed operation.command connection
  rw [Operation.perform_eq]
  generalize Connection.perform operation.command connection = ended at performed
  cases checked : operation.command.check with
  | error e =>
    simp only [perform?, checked]
    cases performed with
    | refused refused =>
      cases checked.symm.trans refused
      rfl
    | _ accepted => cases checked.symm.trans accepted
  | ok =>
    obtain ⟨whole, laid, -, within, encoded, -⟩ := Command.lay_encode checked
    have request : whole.laid = operation.command.request := by
      rw [Connection.encode_of_check checked] at encoded
      exact (Except.ok.inj encoded).symm
    -- What is written leaves the invariant as it was, so the reply can be read.
    have sentOn {n : Nat} {sent : Connection σ}
        (wrote : Connection.write operation.command.request connection = (.ok n, sent)) :
        sent.OpenOn I := by
      have kept := Use.apply_openOn bounded.toKeeps (.write operation.command.request) holds
      simp only [Use.apply, wrote] at kept
      exact kept
    simp only [perform?, checked, laid, Option.bind_eq_bind, Option.bind_some,
      Connection.transmit?_eq bounded within holds, request]
    -- The cases are the ends that an operation can come to, each with the calls up to there.
    cases performed with
    | refused refused => cases checked.symm.trans refused
    | unwritten _ failed =>
      have transmitted : Connection.transmit _ connection = _ := Connection.transmit_failed failed
      simp only [transmitted, pure]
    | cut _ wrote short =>
      have transmitted : Connection.transmit _ connection = _ := Connection.transmit_cut wrote short
      simp only [transmitted, pure]
    | silent _ silent wrote =>
      have transmitted : Connection.transmit _ connection = _ := Connection.transmit_whole wrote
      simp only [transmitted, silent, pure]
    | unread _ length wrote failed =>
      have transmitted : Connection.transmit _ connection = _ := Connection.transmit_whole wrote
      have received : Connection.receive _ operation.command.opcode _ = _ :=
        Connection.receive_failed (Connection.replyHeaderLength_le_of_replyLength length) failed
      simp only [transmitted, length, Connection.receive?_eq bounded _ _ (sentOn wrote), received,
        Option.bind_some, pure]
    | invalid _ length wrote heard invalid =>
      have transmitted : Connection.transmit _ connection = _ := Connection.transmit_whole wrote
      have received : Connection.receive _ operation.command.opcode _ = _ :=
        Connection.receive_heard _ (Connection.replyHeaderLength_le_of_replyLength length) heard
      simp only [transmitted, length, Connection.receive?_eq bounded _ _ (sentOn wrote), received,
        invalid, Option.bind_some, pure]
    | @valid size _ _ reply _ _ _ length wrote heard valid =>
      have transmitted : Connection.transmit _ connection = _ := Connection.transmit_whole wrote
      have header := Connection.replyHeaderLength_le_of_replyLength length
      have received : (Connection.receive _ operation.command.opcode).run _ = _ :=
        Connection.receive_heard _ header heard
      rw [valid] at received
      -- The reply has the length that its command expects, so no index is behind its end.
      have complete := Connection.length_received received
      have behind : reply.from? replyHeaderLength = some (reply.drop replyHeaderLength) :=
        Bytes.from_eq (complete ▸ header)
      have left : (reply.drop replyHeaderLength).length = size - 3 := by
        rw [List.length_drop, complete]
        rfl
      have read := Operation.readout_whole sized length left
      have received : Connection.receive _ operation.command.opcode _ = _ := received
      simp only [transmitted, length, Connection.receive?_eq bounded _ _ (sentOn wrote), received,
        behind, read, Option.bind_some, pure]

private theorem Use.applied?_eq {use : Use} (sized : use.Sized) {connection : Connection σ}
    (holds : connection.OpenOn I) : use.applied? connection = some (use.apply connection) := by
  cases use with
  | read buffer =>
    rw [applied?, Connection.read?_eq bounded buffer holds]
    rfl
  | write data =>
    rw [applied?, Connection.write?_eq bounded data holds]
    rfl
  | perform operation =>
    rw [applied?, Operation.perform?_eq bounded sized holds]
    rfl
  | send mode op payload =>
    rw [applied?, Connection.send?_eq bounded mode op payload holds]
    rfl
  | receive size op =>
    rw [applied?, Connection.receive?_eq bounded size op holds]
    rfl
  | isOpen => rfl
  | name => rfl
  | close => rfl

/-- Whatever a connection is used for, and for how long, each index is in range. -/
theorem Connection.live?_eq {uses : List Use} (sized : ∀ use ∈ uses, use.Sized)
    {connection : Connection σ} (holds : connection.OpenOn I) :
    live? uses connection = some (live uses connection) := by
  induction uses generalizing connection with
  | nil => rfl
  | cons use rest ih =>
    obtain ⟨first, later⟩ := List.forall_mem_cons.mp sized
    have kept := use.apply_openOn bounded.toKeeps holds
    simp only [live?, live, Use.applied?_eq bounded first holds, Option.bind_eq_bind,
      Option.bind_some, ih later kept, pure]

end

/-! ### What a wrong count leads to -/

section

variable {σ : Type} [Backend σ]

private theorem Envelope.receive_le (buffer : Bytes) (state : σ) :
    ∀ n, (receive buffer state).1.outcome = .ok n → n ≤ buffer.length := by
  simp only [receive]
  rcases receiveHeader state with ⟨e | length, between⟩
  · rintro n ⟨⟩
  · dsimp only
    rcases fillAll (buffer.take length) between with ⟨⟨e | _, body⟩, after⟩
    · rintro n ⟨⟩
    · dsimp only
      rcases drain (length - buffer.length) after with ⟨e | _, last⟩
      · rintro n ⟨⟩
      · rintro n ⟨⟩
        exact Nat.min_le_right ..

/-- A length field that does not come whole, with the count that was reported of it. -/
theorem Envelope.receive_shortHeader (buffer : Bytes) {field : Bytes} {n : Nat} {state after : σ}
    (read : Backend.steadyRead (List.replicate 2 0) state = (⟨.ok n, field⟩, after))
    (some : n ≠ 0) (other : n ≠ 2) :
    receive buffer state = (⟨.error (.shortHeader n), buffer⟩, after) := by
  refine receive_headless ?_
  rw [receiveHeader_eq, headerSize, read]
  cases n with
  | zero => exact absurd rfl some
  | succ n =>
    show (if n + 1 = 2 then _ else _, after) = _
    rw [if_neg other]

namespace Connection

theorem write_message (data : Bytes) (backend : σ) :
    write data (overMessages backend) =
      ((Backend.write data backend).1.mapError .ofTransport,
        overMessages (Backend.write data backend).2) := rfl

theorem read_message (buffer : Bytes) (backend : σ) :
    (read buffer (overMessages backend)).1.outcome =
        (Backend.read buffer.length backend).1.outcome.mapError .ofTransport ∧
      (read buffer (overMessages backend)).2 =
        overMessages (Backend.read buffer.length backend).2 := ⟨rfl, rfl⟩

private theorem mapError_ok {α ε ε' : Type} {f : ε → ε'} {outcome : Except ε α} {a : α}
    (ended : outcome.mapError f = .ok a) : outcome = .ok a := by
  cases outcome with
  | ok b =>
    cases ended
    rfl
  | error e => cases ended

private theorem count_of_validate {op : Opcode} {size count : Nat} {held reply : Bytes}
    (valid : validate op size count held = .ok reply) : count = size := by
  by_contra short
  unfold validate at valid
  rw [if_pos short] at valid
  cases valid

end Connection

namespace Operation

variable {operation : Operation} {backend : σ}

/-- Without an envelope an operation succeeds only if the backend reports the whole request and, for
a command with a reply, the whole reply. -/
theorem counts_of_success (success : (operation.perform (.overMessages backend)).1.error? = none) :
    let written := Backend.write operation.command.request backend
    written.1 = .ok operation.command.request.length ∧
      ∀ size, operation.command.opcode.replyLength? = some size →
        (Backend.read size written.2).1.outcome = .ok size := by
  have performed := Connection.perform_performed operation.command (.overMessages backend)
  rw [perform_eq] at success
  generalize Connection.perform operation.command (.overMessages backend) = ended
    at performed success
  -- An operation with a failure does not succeed.
  have failed {e : CommandError} (success : (operation.yield (.error e)).error? = none) :
      False := by
    rw [error?_yield] at success
    cases success
  have whole {sent : Connection σ} (wrote : Connection.write operation.command.request
      (.overMessages backend) = (.ok operation.command.request.length, sent)) :
      (Backend.write operation.command.request backend).1 =
        .ok operation.command.request.length ∧
      sent = .overMessages (Backend.write operation.command.request backend).2 := by
    rw [Connection.write_message, Prod.mk.injEq] at wrote
    exact ⟨Connection.mapError_ok wrote.1, wrote.2.symm⟩
  cases performed with
  | silent accepted silent wrote =>
    refine ⟨(whole wrote).1, fun size length => ?_⟩
    cases silent.symm.trans length
  | @valid size count held reply sent after accepted length wrote heard valid =>
    obtain ⟨written, rfl⟩ := whole wrote
    refine ⟨written, fun size' length' => ?_⟩
    cases length.symm.trans length'
    have outcome := (Connection.read_message (List.replicate size 0)
      (Backend.write operation.command.request backend).2).1
    rw [heard, List.length_replicate] at outcome
    rw [Connection.mapError_ok outcome.symm, Connection.count_of_validate valid]
  -- All other ends are failures.
  | _ => exact (failed success).elim

private theorem error_of_shortWrite {n : Nat} {after : σ}
    (accepted : operation.command.check = .ok ())
    (wrote : Backend.write operation.command.request backend = (.ok n, after))
    (short : n ≠ operation.command.request.length) :
    (operation.perform (.overMessages backend)).1.error? =
      some (.framing (.shortWrite operation.command.request.length n)) := by
  have written : Connection.write operation.command.request (.overMessages backend) =
      (.ok n, .overMessages after) := by
    rw [Connection.write_message, wrote]
    rfl
  rw [perform_eq, Connection.perform_unsent accepted (Connection.transmit_cut written short)]
  exact error?_yield _ _

private theorem error_of_shortReply {size n : Nat} {sent : σ}
    (accepted : operation.command.check = .ok ())
    (wrote : Backend.write operation.command.request backend =
      (.ok operation.command.request.length, sent))
    (length : operation.command.opcode.replyLength? = some size)
    (read : (Backend.read size sent).1.outcome = .ok n) (short : n ≠ size) :
    (operation.perform (.overMessages backend)).1.error? =
      some (.framing (.shortReply size n)) := by
  have written : Connection.write operation.command.request (.overMessages backend) =
      (.ok operation.command.request.length, .overMessages sent) := by
    rw [Connection.write_message, wrote]
    rfl
  rcases heard : Connection.read (List.replicate size 0) (.overMessages sent) with
    ⟨⟨outcome, held⟩, after⟩
  have reported := (Connection.read_message (List.replicate size 0) sent).1
  rw [heard, List.length_replicate, read] at reported
  cases reported
  have received := Connection.receive_heard operation.command.opcode
    (Connection.replyHeaderLength_le_of_replyLength length) heard
  -- The length is the first thing that is looked at, so the bytes do not matter.
  have cut : validate operation.command.opcode size n held =
      .error (.framing (.shortReply size n)) := by
    unfold validate
    rw [if_pos short]
  rw [cut] at received
  rw [perform_eq, Connection.perform_received accepted length written received]
  exact error?_yield _ _

end Operation

end

/-! ### Plans with wrong counts -/

/-- The turn claims no count from `2 ^ 63` on. -/
def Turn.Moderate : Turn → Prop
  | .claims count => count < 2 ^ 63
  | _ => True

namespace Rehearsal

/-- No turn of the plans claims a count from `2 ^ 63` on. -/
structure Moderate (rehearsal : Rehearsal) : Prop where
  reads : ∀ turn ∈ rehearsal.readPlan, turn.Moderate
  writes : ∀ turn ∈ rehearsal.writePlan, turn.Moderate

theorem turn_moderate {plan : List Turn} (limit : Option Nat)
    (moderate : ∀ now ∈ plan, now.Moderate) :
    (turn plan limit).1.Moderate ∧ ∀ now ∈ (turn plan limit).2, now.Moderate := by
  cases plan with
  | nil => exact ⟨trivial, moderate⟩
  | cons first rest => exact List.forall_mem_cons.mp moderate

private theorem length_take_le (supply : Supply) (limit : Nat) :
    (supply.take limit).1.length ≤ limit := by
  cases supply with
  | stream bytes => exact List.length_take_le ..
  | packets queue =>
    cases queue with
    | nil => exact Nat.zero_le _
    | cons first rest => exact List.length_take_le ..

private theorem read_moderate {rehearsal : Rehearsal} (moderate : rehearsal.Moderate) (room : Nat) :
    Moderate (Backend.read room rehearsal).2 ∧
      ∀ n, (Backend.read room rehearsal).1.outcome = .ok n → n ≤ room ∨ n < 2 ^ 63 := by
  have first := turn_moderate rehearsal.readLimit moderate.reads
  simp only [Backend.read]
  generalize turn rehearsal.readPlan rehearsal.readLimit = found at first ⊢
  obtain ⟨now, later⟩ := found
  cases now with
  | fails e => exact ⟨⟨first.2, moderate.writes⟩, by rintro n ⟨⟩⟩
  | claims count =>
    refine ⟨⟨first.2, moderate.writes⟩, ?_⟩
    rintro n ⟨⟩
    exact .inr first.1
  | upTo limit =>
    refine ⟨⟨first.2, moderate.writes⟩, ?_⟩
    rintro n ⟨⟩
    exact .inl (Nat.le_trans (length_take_le _ _) (within_le limit room))

private theorem write_moderate {rehearsal : Rehearsal} (moderate : rehearsal.Moderate)
    (data : Bytes) : Moderate (Backend.write data rehearsal).2 ∧
      ∀ n, (Backend.write data rehearsal).1 = .ok n → n ≤ data.length ∨ n < 2 ^ 63 := by
  have first := turn_moderate rehearsal.writeLimit moderate.writes
  simp only [Backend.write]
  generalize turn rehearsal.writePlan rehearsal.writeLimit = found at first ⊢
  obtain ⟨now, later⟩ := found
  cases now with
  | fails e => exact ⟨⟨moderate.reads, first.2⟩, by rintro n ⟨⟩⟩
  | claims count =>
    refine ⟨⟨moderate.reads, first.2⟩, ?_⟩
    rintro n ⟨⟩
    exact .inr first.1
  | upTo limit =>
    refine ⟨⟨moderate.reads, first.2⟩, ?_⟩
    rintro n ⟨⟩
    exact .inl (within_le limit data.length)

/-- An honest count is no larger than the piece at hand, and the claims of the plans are bounded. -/
theorem moderate_bounded : Backend.Bounded Moderate where
  read room _ moderate := (read_moderate moderate room).1
  write data _ moderate := (write_moderate moderate data).1
  readCount room _ small moderate n read :=
    ((read_moderate moderate room).2 n read).elim (Nat.lt_of_le_of_lt · small) id
  writeCount data _ small moderate n wrote :=
    ((write_moderate moderate data).2 n wrote).elim (Nat.lt_of_le_of_lt · small) id

end Rehearsal

/-- No count that a backend reports gets an index out of range: each send and receive of an
envelope, and each way to use a connection, has a result when every index is checked, and it is the
result without the checks. A receive keeps no more than its buffer holds, and a length field has to
be reported with both of its bytes. Without an envelope only true counts lead to success, and a
wrong one is told. -/
theorem misreports_harmless {σ : Type} [Backend σ] {I : σ → Prop} (bounded : Backend.Bounded I) :
    (∀ body state, I state →
      Envelope.send? body state = some (Envelope.send body state) ∧
        I (Envelope.send body state).2) ∧
    (∀ buffer state, I state →
      Envelope.receive? buffer state = some (Envelope.receive buffer state) ∧
        I (Envelope.receive buffer state).2 ∧
        ∀ n, (Envelope.receive buffer state).1.outcome = .ok n → n ≤ buffer.length) ∧
    (∀ (buffer field : Bytes) (n : Nat) (state after : σ),
      Backend.steadyRead (List.replicate 2 0) state = (⟨.ok n, field⟩, after) → n ≠ 0 → n ≠ 2 →
      Envelope.receive buffer state = (⟨.error (.shortHeader n), buffer⟩, after)) ∧
    (∀ (uses : List Use) (connection : Connection σ), (∀ use ∈ uses, use.Sized) →
      connection.OpenOn I →
      Connection.live? uses connection = some (Connection.live uses connection)) ∧
    (∀ (operation : Operation) (backend : σ),
      let ended := (operation.perform (.overMessages backend)).1
      let request := operation.command.request
      let written := Backend.write request backend
      (ended.error? = none → written.1 = .ok request.length ∧
        ∀ size, operation.command.opcode.replyLength? = some size →
          (Backend.read size written.2).1.outcome = .ok size) ∧
      (operation.command.check = .ok () →
        (∀ n, written.1 = .ok n → n ≠ request.length →
          ended.error? = some (.framing (.shortWrite request.length n))) ∧
        ∀ size n, written.1 = .ok request.length →
          operation.command.opcode.replyLength? = some size →
          (Backend.read size written.2).1.outcome = .ok n → n ≠ size →
          ended.error? = some (.framing (.shortReply size n)))) := by
  refine ⟨?_, ?_, ?_, ?_, ?_⟩
  · intro body state holds
    refine ⟨Envelope.send?_eq bounded body holds, ?_⟩
    obtain ⟨_, s, _, left, _, _, kept⟩ :=
      (Envelope.send_alike bounded.alike body state state ⟨rfl, holds⟩).split
    rw [left]
    exact kept
  · intro buffer state holds
    refine ⟨Envelope.receive?_eq bounded buffer holds, ?_, Envelope.receive_le buffer state⟩
    obtain ⟨_, s, _, left, _, _, kept⟩ :=
      (Envelope.receive_alike bounded.alike buffer state state ⟨rfl, holds⟩).split
    rw [left]
    exact kept
  · intro buffer field n state after read some other
    exact Envelope.receive_shortHeader buffer read some other
  · intro uses connection sized holds
    exact Connection.live?_eq bounded sized holds
  · intro operation backend
    refine ⟨Operation.counts_of_success, fun accepted => ⟨?_, ?_⟩⟩
    · intro n wrote short
      exact Operation.error_of_shortWrite accepted (Prod.ext wrote rfl) short
    · intro size n wrote length read short
      exact Operation.error_of_shortReply accepted (Prod.ext wrote rfl) length read short

/-- The largest counts: a body of five bytes goes to a buffer of three, and a reply to a query is
said to be as long as memory. -/
theorem misreports_harmless_largest :
    let most := 2 ^ 63 - 1
    let stream : Rehearsal :=
      { supply := .stream [5, 0, 1, 2, 3, 4]
        readPlan := [.claims 2, .claims most, .claims most]
        writePlan := [.claims most] }
    let packets : Rehearsal := { supply := .packets [[0x02, 0x0B]], readPlan := [.claims most] }
    let field : Rehearsal := { supply := .stream [5, 0, 1], readPlan := [.claims 3] }
    let query : Operation := .plain .getBatteryLevel
    (Envelope.send? [7, 8, 9] stream = some (Envelope.send [7, 8, 9] stream) ∧
      (Envelope.send [7, 8, 9] stream).1 = .ok 3) ∧
    (Envelope.receive? [0, 0, 0] stream = some (Envelope.receive [0, 0, 0] stream) ∧
      (Envelope.receive [0, 0, 0] stream).1.outcome = .ok 3) ∧
    (Envelope.receive [0, 0, 0] field).1.outcome = .error (.shortHeader 3) ∧
    Connection.live? [.perform query, .close] (.overMessages packets) =
      some (Connection.live [.perform query, .close] (.overMessages packets)) ∧
    (query.perform (.overMessages packets)).1.error? = some (.framing (.shortReply 5 most)) := by
  intro most stream packets field query
  obtain ⟨sends, receives, headers, lives, operations⟩ :=
    misreports_harmless Rehearsal.moderate_bounded
  have stream_moderate : stream.Moderate := ⟨by simp [stream, most, Turn.Moderate],
    by simp [stream, most, Turn.Moderate]⟩
  have packets_moderate : packets.Moderate := ⟨by simp [packets, most, Turn.Moderate],
    by simp [packets]⟩
  have short := headers [0, 0, 0] [5, 0] 3 field _ rfl (by decide) (by decide)
  have told := (operations query packets).2 rfl
  exact ⟨⟨(sends _ _ stream_moderate).1, by decide +kernel⟩,
    ⟨(receives _ _ stream_moderate).1, by decide +kernel⟩, by rw [short],
    lives _ _ (by simp [Use.Sized, Operation.Sized, query]) fun _ => packets_moderate,
    told.2 5 most rfl rfl rfl (by decide)⟩

end BrickControl
