import BrickControl.Proofs.Backend.Alike
import BrickControl.Proofs.Session.Operation

/-!
# Uses of a connection

Everything that the owner of a connection can do with it, one use after the other. Short of closing
it, a use does to a connection what its reads and writes do to the backend: it keeps every invariant
of the backend, and two backends that behave alike show the owner the same.
-/
namespace BrickControl

inductive Use where
  | read (buffer : Bytes)
  | write (data : Bytes)
  | perform (operation : Operation)
  /-- Any request, without an answer. -/
  | send (mode : ReplyMode) (op : Opcode) (payload : Bytes)
  /-- The answer to a request that was sent in this way. -/
  | receive (size : Nat) (op : Opcode)
  | isOpen
  | name
  | close
  deriving DecidableEq

/-- What the owner of a connection gets from a use of it. -/
inductive Seen where
  | filled (ended : Filled CommandError)
  | written (outcome : Except CommandError Nat)
  | performed (result : Result)
  | sent (outcome : Except CommandError Unit)
  | received (outcome : Except CommandError Bytes)
  | isOpen (answer : Bool)
  | name (answer : Option String)
  | closed (outcome : Except CommandError Unit)

namespace Use

variable {σ : Type} [Backend σ]

def apply : Use → Connection σ → Seen × Connection σ
  | .read buffer, connection =>
    match Connection.read buffer connection with
    | (ended, connection) => (.filled ended, connection)
  | .write data, connection =>
    match Connection.write data connection with
    | (outcome, connection) => (.written outcome, connection)
  | .perform operation, connection =>
    match operation.perform connection with
    | (result, connection) => (.performed result, connection)
  | .send mode op payload, connection =>
    match Connection.send mode op payload connection with
    | (outcome, connection) => (.sent outcome, connection)
  | .receive size op, connection =>
    match Connection.receive size op connection with
    | (outcome, connection) => (.received outcome, connection)
  | .isOpen, connection => (.isOpen connection.isOpen, connection)
  | .name, connection => (.name connection.transportName?, connection)
  | .close, connection =>
    match Connection.close connection with
    | (outcome, connection) => (.closed outcome, connection)

/-- The arguments are within their limits. -/
def Accepted : Use → Prop
  | .perform operation => operation.command.check = .ok ()
  | .send _ _ payload => payload.length ≤ Limits.requestLength - 2
  | .receive size _ => replyHeaderLength ≤ size
  | _ => True

end Use

namespace Connection

variable {σ τ : Type} [Backend σ] [Backend τ] {R : σ → τ → Prop} {framing : Framing}
  {opened : Bool}

/-- Uses the connection in these ways, one after the other. -/
def live : List Use → Connection σ → List Seen × Connection σ
  | [], connection => ([], connection)
  | use :: rest, connection =>
    ((use.apply connection).1 :: (live rest (use.apply connection).2).1,
      (live rest (use.apply connection).2).2)

theorem live_append (first second : List Use) (connection : Connection σ) :
    live (first ++ second) connection =
      ((live first connection).1 ++ (live second (live first connection).2).1,
        (live second (live first connection).2).2) := by
  induction first generalizing connection with
  | nil => rfl
  | cons use rest ih => simp only [List.cons_append, live, ih]

/-- Connections of one sort over related backends. -/
inductive Linked (R : σ → τ → Prop) (framing : Framing) (opened : Bool) :
    Connection σ → Connection τ → Prop
  | intro {s : σ} {t : τ} (related : R s t) : Linked R framing opened ⟨framing, opened, s⟩
      ⟨framing, opened, t⟩

section

variable (alike : Backend.Alike R)

include alike

theorem read_alike (buffer : Bytes) (left : Connection σ) (right : Connection τ)
    (linked : Linked R framing opened left right) :
    Agree (Linked R framing opened) (read buffer left) (read buffer right) := by
  obtain @⟨s, t, related⟩ := linked
  cases opened with
  | false => exact ⟨rfl, .intro related⟩
  | true =>
    -- A message is one read of the backend, an envelope several.
    cases framing with
    | message =>
      obtain ⟨⟨outcome, held⟩, s', t', got, got', related'⟩ :=
        (alike.readOnce buffer s t related).split
      simp only [read, if_true, got, got']
      exact ⟨rfl, .intro related'⟩
    | stream =>
      obtain ⟨⟨outcome, held⟩, s', t', got, got', related'⟩ :=
        (Envelope.receive_alike alike buffer s t related).split
      simp only [read, if_true, got, got']
      exact ⟨rfl, .intro related'⟩

theorem write_alike (data : Bytes) :
    Act.Alike (Linked R framing opened) (write data) (write data) := by
  rintro _ _ @⟨s, t, related⟩
  cases opened with
  | false => exact ⟨rfl, .intro related⟩
  | true =>
    cases framing with
    | message =>
      obtain ⟨outcome, s', t', wrote, wrote', related'⟩ := (alike.write data s t related).split
      simp only [Act.run, write, if_true, wrote, wrote']
      exact ⟨rfl, .intro related'⟩
    | stream =>
      obtain ⟨outcome, s', t', wrote, wrote', related'⟩ :=
        (Envelope.send_alike alike data s t related).split
      simp only [Act.run, write, if_true, wrote, wrote']
      exact ⟨rfl, .intro related'⟩

theorem transmit_alike (request : Bytes) :
    Act.Alike (Linked R framing opened) (transmit request) (transmit request) := by
  refine (write_alike alike request).bind fun written => ?_
  split
  · exact Act.alike_known (.error _)
  · exact Act.alike_known (.ok ())

private theorem send_alike (mode : ReplyMode) (op : Opcode) (payload : Bytes) :
    Act.Alike (Linked R framing opened) (send mode op payload) (send mode op payload) :=
  (Act.alike_known _).bind fun request => transmit_alike alike request

theorem receive_alike (size : Nat) (op : Opcode) :
    Act.Alike (Linked R framing opened) (receive size op) (receive size op) := by
  intro left right linked
  simp only [Act.run, receive]
  split
  · exact ⟨rfl, linked⟩
  · obtain ⟨⟨outcome, held⟩, left', right', got, got', linked'⟩ :=
      (read_alike alike (List.replicate size 0) left right linked).split
    simp only [got, got']
    cases outcome with
    | error e => exact ⟨rfl, linked'⟩
    | ok count => exact ⟨rfl, linked'⟩

/-- A command comes to the same on connections over backends that behave alike. -/
theorem perform_alike (command : Command) :
    Act.Alike (Linked R framing opened) (perform command) (perform command) := by
  refine (Act.alike_known _).bind fun request => (transmit_alike alike request).bind fun _ => ?_
  -- Both sides got the same payload, so they decode it in the same way.
  cases command.opcode.replyLength? with
  | none =>
    refine (Act.alike_known (.ok [])).bind fun payload => ?_
    dsimp only
    cases command.decode? payload with
    | some outcome => exact Act.alike_known outcome
    | none => exact Act.alike_known (.error _)
  | some size =>
    refine (receive_alike alike size command.opcode).bind fun reply => ?_
    refine (Act.alike_known (.ok (reply.drop replyHeaderLength))).bind fun payload => ?_
    dsimp only
    cases command.decode? payload with
    | some outcome => exact Act.alike_known outcome
    | none => exact Act.alike_known (.error _)

end

/-- Connections that are closed are told apart by nothing but how their backends close. -/
theorem close_alike
    (alike : ∀ s t, R s t → Agree R (Backend.close s : _ × σ) (Backend.close t : _ × τ)) :
    ∀ left right, Linked R framing opened left right →
      ∃ now, Agree (Linked R framing now) (close left : _ × Connection σ) (close right) := by
  rintro _ _ @⟨s, t, related⟩
  cases opened with
  | false => exact ⟨false, rfl, .intro related⟩
  -- The backend is closed once, and both connections are closed from then on.
  | true =>
    obtain ⟨outcome, s', t', ended, ended', related'⟩ := (alike s t related).split
    simp only [close, if_true, ended, ended']
    exact ⟨false, rfl, .intro related'⟩

end Connection

namespace Use

variable {σ τ : Type} [Backend σ] [Backend τ] {framing : Framing} {opened : Bool}

/-- Backends that behave alike show the owner the same, as long as he does not close them. -/
theorem apply_alike {R : σ → τ → Prop} (alike : Backend.Alike R) {use : Use} (short : use ≠ .close)
    (left : Connection σ) (right : Connection τ)
    (linked : Connection.Linked R framing opened left right) :
    Agree (Connection.Linked R framing opened) (use.apply left) (use.apply right) := by
  cases use with
  | close => exact absurd rfl short
  | isOpen =>
    obtain ⟨related⟩ := linked
    exact ⟨rfl, .intro related⟩
  | name =>
    obtain @⟨s, t, related⟩ := linked
    have same := alike.name s t related
    exact ⟨by simp only [apply, Connection.transportName?, same], .intro related⟩
  | read buffer => exact (Connection.read_alike alike buffer left right linked).map Seen.filled
  | write data => exact (Connection.write_alike alike data left right linked).map Seen.written
  | send mode op payload =>
    exact (Connection.send_alike alike mode op payload left right linked).map Seen.sent
  | receive size op =>
    exact (Connection.receive_alike alike size op left right linked).map Seen.received
  | perform operation =>
    have alike := Connection.perform_alike alike operation.command left right linked
    simp only [apply, Operation.perform_eq]
    exact alike.map fun outcome => Seen.performed (operation.yield outcome)

/-- Short of closing the backend, a use keeps what its reads and writes keep. -/
theorem apply_keeps {I : σ → Prop} (keeps : Backend.Keeps I) {use : Use} (short : use ≠ .close)
    (framing : Framing) (opened : Bool) {s : σ} (holds : I s) :
    ∃ seen after, use.apply ⟨framing, opened, s⟩ = (seen, ⟨framing, opened, after⟩) ∧ I after := by
  -- The backend is compared with itself, as long as the invariant holds of it.
  have start : Connection.Linked (Backend.Itself I) framing opened ⟨framing, opened, s⟩
      ⟨framing, opened, s⟩ := .intro ⟨rfl, holds⟩
  obtain ⟨seen, _, _, ended, _, linked⟩ := (apply_alike keeps.alike short _ _ start).split
  obtain @⟨after, _, _, holds'⟩ := linked
  exact ⟨seen, after, ended, holds'⟩

/-- What a use comes to on a closed connection. -/
def onClosed : Use → Seen
  | .read buffer => .filled ⟨.error .entityClosed, buffer⟩
  | .write _ => .written (.error .entityClosed)
  | .perform operation => .performed (operation.yield (.error .entityClosed))
  | .send _ _ _ => .sent (.error .entityClosed)
  | .receive _ _ => .received (.error .entityClosed)
  | .isOpen => .isOpen false
  | .name => .name none
  | .close => .closed (.ok ())

end Use

namespace Connection

variable {σ : Type} [Backend σ] {framing : Framing} {s : σ}

theorem transmit_closed (request : Bytes) :
    (transmit request).run (⟨framing, false, s⟩ : Connection σ) =
      (.error .entityClosed, ⟨framing, false, s⟩) := by
  have refused : (write request).run (⟨framing, false, s⟩ : Connection σ) =
      (.error .entityClosed, ⟨framing, false, s⟩) := rfl
  rw [transmit, Act.bind_run_error refused]

private theorem perform_closed {command : Command} (accepted : command.check = .ok ()) :
    perform command (⟨framing, false, s⟩ : Connection σ) =
      (.error .entityClosed, ⟨framing, false, s⟩) :=
  -- The request is built all the same; it is not written.
  perform_unsent accepted (transmit_closed _)

end Connection

namespace Use

variable {σ : Type} [Backend σ] {framing : Framing} {s : σ}

/-- A closed connection stays as it is, and tells of every accepted use that it is closed. -/
theorem apply_closed (use : Use) (framing : Framing) (s : σ) :
    (use.apply (⟨framing, false, s⟩ : Connection σ)).2 = ⟨framing, false, s⟩ ∧
      (use.Accepted → (use.apply (⟨framing, false, s⟩ : Connection σ)).1 = use.onClosed) := by
  cases use with
  | read buffer => exact ⟨rfl, fun _ => rfl⟩
  | write data => exact ⟨rfl, fun _ => rfl⟩
  | isOpen => exact ⟨rfl, fun _ => rfl⟩
  | name => exact ⟨rfl, fun _ => rfl⟩
  | close => exact ⟨rfl, fun _ => rfl⟩
  | receive size op =>
    simp only [apply, Connection.receive, onClosed, Accepted]
    -- Too little room is told first, whether or not the connection is open.
    by_cases short : size < replyHeaderLength
    · simp only [if_pos short]
      exact ⟨trivial, fun enough => absurd short (Nat.not_lt.mpr enough)⟩
    · simp only [if_neg short]
      exact ⟨rfl, fun _ => rfl⟩
  | send mode op payload =>
    cases built : rawRequest mode op payload with
    | error e =>
      -- The payload is too long, which is told before it is looked whether the connection is open.
      have stopped : Connection.send mode op payload (⟨framing, false, s⟩ : Connection σ) =
          (.error e, ⟨framing, false, s⟩) :=
        Act.bind_run_error (congrArg (·, _) built) _
      simp only [apply, stopped, Accepted, true_and]
      intro fits
      rw [rawRequest, if_neg (Nat.not_lt.mpr fits)] at built
      cases built
    | ok request =>
      have stopped : Connection.send mode op payload (⟨framing, false, s⟩ : Connection σ) =
          (.error .entityClosed, ⟨framing, false, s⟩) :=
        (Act.bind_run_ok (congrArg (·, _) built) _).trans (Connection.transmit_closed request)
      simp only [apply, stopped, onClosed, implies_true, and_self]
  | perform operation =>
    cases accepted : operation.command.check with
    | error e =>
      -- A refused command does not come to the connection either.
      simp only [apply, Operation.perform_eq, Connection.perform_refused accepted, Accepted,
        accepted, reduceCtorEq, false_implies, and_self]
    | ok =>
      simp only [apply, Operation.perform_eq, Connection.perform_closed accepted, onClosed,
        implies_true, and_self]

end Use
end BrickControl
