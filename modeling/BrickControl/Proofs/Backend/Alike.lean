import BrickControl.Proofs.Act
import BrickControl.Proofs.Envelope.Loops

/-!
# Backends that behave alike

A relation between the states of two backends that every read and every write keeps, with the same
outcomes on both sides, is kept by everything that is built from reads and writes. With one backend
on both sides the relation is an invariant of that backend.
-/
namespace BrickControl

namespace Backend

variable {σ τ : Type} [Backend σ] [Backend τ]

/-- Both backends answer every read and every write in the same way, and stay related. They go by
one name and have the same patience, so that what is built on them makes as many tries on both
sides. -/
structure Alike (R : σ → τ → Prop) : Prop where
  read : ∀ room s t, R s t → Agree R (Backend.read room s) (Backend.read room t)
  write : ∀ data s t, R s t → Agree R (Backend.write data s) (Backend.write data t)
  name : ∀ s t, R s t → Backend.name s = Backend.name t
  patience : ∀ s t, R s t → Backend.patience s = Backend.patience t

/-- Reads and writes keep the invariant. -/
structure Keeps (I : σ → Prop) : Prop where
  read : ∀ room s, I s → I (Backend.read room s).2
  write : ∀ data s, I s → I (Backend.write data s).2

/-- A state is like itself as long as an invariant holds of it. -/
def Itself (I : σ → Prop) (s t : σ) : Prop := s = t ∧ I s

/-- An invariant of one backend is a relation of it with itself. -/
theorem Keeps.alike {I : σ → Prop} (keeps : Keeps I) : Alike (Itself I) where
  read := by
    rintro room s _ ⟨rfl, holds⟩
    exact ⟨rfl, rfl, keeps.read room s holds⟩
  write := by
    rintro data s _ ⟨rfl, holds⟩
    exact ⟨rfl, rfl, keeps.write data s holds⟩
  name := by
    rintro s _ ⟨rfl, _⟩
    rfl
  patience := by
    rintro s _ ⟨rfl, _⟩
    rfl

/-- Steady calls keep the relation, however many tries they take on either side. -/
structure Steady (R : σ → τ → Prop) : Prop where
  read : ∀ buffer s t, R s t → Agree R (steadyRead buffer s) (steadyRead buffer t)
  write : ∀ data s t, R s t → Agree R (steadyWrite data s) (steadyWrite data t)

variable {R : σ → τ → Prop} (alike : Alike R)

include alike

/-- A read into a buffer is a read with the room of that buffer, so the buffers are the same too. -/
theorem Alike.readOnce (buffer : Bytes) (s : σ) (t : τ) (related : R s t) :
    Agree R (Backend.readOnce buffer s) (Backend.readOnce buffer t) := by
  obtain ⟨delivery, s', t', left, right, related'⟩ := (alike.read buffer.length s t related).split
  simp only [Backend.readOnce, left, right]
  exact ⟨rfl, related'⟩

private theorem Alike.readAgain (patience : Nat) (buffer : Bytes) (s : σ) (t : τ)
    (related : R s t) :
    Agree R (Backend.readAgain patience buffer s) (Backend.readAgain patience buffer t) := by
  induction patience generalizing buffer s t with
  | zero => exact alike.readOnce buffer s t related
  | succ patience ih =>
    obtain ⟨⟨outcome, held⟩, s', t', left, right, related'⟩ :=
      (alike.readOnce buffer s t related).split
    simp only [Backend.readAgain, left, right]
    cases outcome with
    | ok n => exact ⟨rfl, related'⟩
    | error e =>
      -- Both sides saw the same error, so both try again or neither does.
      by_cases interrupted : e.isInterruption = true
      · simp only [if_pos interrupted]
        exact ih held s' t' related'
      · simp only [if_neg interrupted]
        exact ⟨rfl, related'⟩

/-- A read that is taken up again after interruptions keeps the relation. -/
theorem Alike.steadyRead (buffer : Bytes) (s : σ) (t : τ) (related : R s t) :
    Agree R (Backend.steadyRead buffer s) (Backend.steadyRead buffer t) := by
  -- The number of tries depends on the state, and it has to be the same on both sides.
  rw [Backend.steadyRead, Backend.steadyRead, alike.patience s t related]
  exact alike.readAgain _ buffer s t related

private theorem Alike.writeAgain (patience : Nat) (data : Bytes) (s : σ) (t : τ) (related : R s t) :
    Agree R (Backend.writeAgain patience data s) (Backend.writeAgain patience data t) := by
  induction patience generalizing s t with
  | zero => exact alike.write data s t related
  | succ patience ih =>
    obtain ⟨outcome, s', t', left, right, related'⟩ := (alike.write data s t related).split
    simp only [Backend.writeAgain, left, right]
    cases outcome with
    | ok n => exact ⟨rfl, related'⟩
    | error e =>
      -- The error is one, so it is an interruption for both sides or for neither.
      by_cases interrupted : e.isInterruption = true
      · simp only [if_pos interrupted]
        exact ih s' t' related'
      · simp only [if_neg interrupted]
        exact ⟨rfl, related'⟩

theorem Alike.steadyWrite (data : Bytes) (s : σ) (t : τ) (related : R s t) :
    Agree R (Backend.steadyWrite data s) (Backend.steadyWrite data t) := by
  rw [Backend.steadyWrite, Backend.steadyWrite, alike.patience s t related]
  exact alike.writeAgain _ data s t related

/-- Nothing more than single calls has to be compared for the loops over them. -/
theorem Alike.steady : Steady R where
  read := alike.steadyRead
  write := alike.steadyWrite

end Backend

namespace Envelope

open Backend

variable {σ τ : Type} [Backend σ] [Backend τ] {R : σ → τ → Prop} (steady : Steady R)

include steady

-- The loops end on both sides at the same point, because their outcomes are the same up to there.
-- The induction follows the left side; the right side is unfolded beside it.

/-- A request goes out in the same pieces on both sides. -/
theorem sendAll_steady (rest : Bytes) (s : σ) (t : τ) (related : R s t) :
    Agree R (sendAll rest s) (sendAll rest t) := by
  induction rest, s using sendAll.induct generalizing t with
  | case1 s =>
    rw [sendAll, sendAll, dif_pos rfl, dif_pos rfl]
    exact ⟨rfl, related⟩
  | case2 rest s more e after failed =>
    obtain ⟨t', right, related'⟩ := (steady.write rest s t related).other failed
    rw [sendAll, sendAll, dif_neg more, dif_neg more, failed, right]
    exact ⟨rfl, related'⟩
  | case3 rest s more after nothing =>
    obtain ⟨t', right, related'⟩ := (steady.write rest s t related).other nothing
    rw [sendAll, sendAll, dif_neg more, dif_neg more, nothing, right]
    exact ⟨rfl, related'⟩
  | case4 rest s more n after wrote ih =>
    obtain ⟨t', right, related'⟩ := (steady.write rest s t related).other wrote
    -- Both sides took the same piece, so the same bytes are left to send.
    rw [sendAll, sendAll, dif_neg more, dif_neg more, wrote, right]
    exact ih t' related'

private theorem fillAll_steady (buffer : Bytes) (s : σ) (t : τ) (related : R s t) :
    Agree R (fillAll buffer s) (fillAll buffer t) := by
  induction buffer, s using fillAll.induct generalizing t with
  | case1 s =>
    rw [fillAll, fillAll, dif_pos rfl, dif_pos rfl]
    exact ⟨rfl, related⟩
  | case2 buffer s more e held after failed =>
    obtain ⟨t', right, related'⟩ := (steady.read buffer s t related).other failed
    rw [fillAll_failed more failed, fillAll_failed more right]
    exact ⟨rfl, related'⟩
  | case3 buffer s more held after nothing =>
    obtain ⟨t', right, related'⟩ := (steady.read buffer s t related).other nothing
    rw [fillAll_nothing more nothing, fillAll_nothing more right]
    exact ⟨rfl, related'⟩
  | case4 buffer s more n held after got outcome rest last filled ih =>
    obtain ⟨t', right, related'⟩ := (steady.read buffer s t related).other got
    -- The bytes read so far go in front of what the rest of the loop brings.
    obtain ⟨same, related''⟩ := ih t' related'
    rw [fillAll_step more got, fillAll_step more right, same]
    exact ⟨rfl, related''⟩

private theorem drain_steady (remaining : Nat) (s : σ) (t : τ) (related : R s t) :
    Agree R (drain remaining s) (drain remaining t) := by
  induction remaining, s using drain.induct generalizing t with
  | case1 s =>
    rw [drain, drain, if_pos rfl, if_pos rfl]
    exact ⟨rfl, related⟩
  | case2 remaining s more e held after failed =>
    obtain ⟨t', right, related'⟩ := (steady.read _ s t related).other failed
    rw [drain, drain, if_neg more, if_neg more, failed, right]
    exact ⟨rfl, related'⟩
  | case3 remaining s more held after nothing =>
    obtain ⟨t', right, related'⟩ := (steady.read _ s t related).other nothing
    rw [drain, drain, if_neg more, if_neg more, nothing, right]
    exact ⟨rfl, related'⟩
  | case4 remaining s more n held after got ih =>
    obtain ⟨t', right, related'⟩ := (steady.read _ s t related).other got
    -- Both sides are as far as each other, and as much is left to read past.
    rw [drain_step more got, drain_step more right]
    exact ih t' related'

private theorem send_steady (body : Bytes) (s : σ) (t : τ) (related : R s t) :
    Agree R (send body s) (send body t) := by
  -- A body that is too long for an envelope is not offered to either side.
  cases enveloped : encode body with
  | error e =>
    simp only [send, enveloped]
    exact ⟨rfl, related⟩
  | ok envelope =>
    obtain ⟨outcome, s', t', left, right, related'⟩ :=
      (sendAll_steady steady envelope s t related).split
    simp only [send, enveloped, left, right]
    cases outcome with
    | error e => exact ⟨rfl, related'⟩
    | ok => exact ⟨rfl, related'⟩

/-- Both sides read the same length, or give up for the same reason. -/
theorem receiveHeader_steady (s : σ) (t : τ) (related : R s t) :
    Agree R (receiveHeader s) (receiveHeader t) := by
  obtain ⟨⟨outcome, header⟩, s', t', left, right, related'⟩ :=
    (steady.read (List.replicate headerSize 0) s t related).split
  simp only [receiveHeader, left, right]
  cases outcome with
  | error e => exact ⟨rfl, related'⟩
  | ok n =>
    -- The bytes of the field are the same on both sides, so its length is.
    dsimp only
    split
    · exact ⟨rfl, related'⟩
    · split
      · exact ⟨rfl, related'⟩
      · exact ⟨rfl, related'⟩

/-- A body is received with the same outcome and into the same bytes where steady calls keep the
relation. -/
theorem receive_steady (buffer : Bytes) (s : σ) (t : τ) (related : R s t) :
    Agree R (receive buffer s) (receive buffer t) := by
  obtain ⟨length, s₁, t₁, left, right, related₁⟩ := (receiveHeader_steady steady s t related).split
  simp only [receive, left, right]
  cases length with
  | error e => exact ⟨rfl, related₁⟩
  | ok length =>
    obtain ⟨⟨filled, body⟩, s₂, t₂, left, right, related₂⟩ :=
      (fillAll_steady steady (buffer.take length) s₁ t₁ related₁).split
    simp only [left, right]
    cases filled with
    | error e => exact ⟨rfl, related₂⟩
    | ok =>
      -- What did not fit into the buffer is read past on both sides.
      obtain ⟨drained, s₃, t₃, left, right, related₃⟩ :=
        (drain_steady steady (length - buffer.length) s₂ t₂ related₂).split
      simp only [left, right]
      cases drained with
      | error e => exact ⟨rfl, related₃⟩
      | ok => exact ⟨rfl, related₃⟩

omit steady

variable (alike : Alike R)

include alike

/-- Backends that behave alike send an envelope alike. -/
theorem send_alike (body : Bytes) (s : σ) (t : τ) (related : R s t) :
    Agree R (send body s) (send body t) :=
  send_steady alike.steady body s t related

/-- Backends that behave alike receive an envelope alike, short headers and bodies included. -/
theorem receive_alike (buffer : Bytes) (s : σ) (t : τ) (related : R s t) :
    Agree R (receive buffer s) (receive buffer t) :=
  receive_steady alike.steady buffer s t related

end Envelope
end BrickControl
