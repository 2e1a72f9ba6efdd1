import BrickControl.Proofs.Backend.Alike
import BrickControl.Proofs.Device.Calls
import Mathlib.Data.List.Basic

/-!
# Signals on a radio link

The socket of a radio link makes a call again when a signal cut it short. A host on which signals
arrive is therefore like the same host without them: what a call on the link comes to is the same,
and so is what is left in store for the next call.
-/
namespace BrickControl

namespace Host

/-- The answer to a call that a signal cut short. -/
def cut {α : Type} : Except Errno α → Bool
  | .ok _ => false
  | .error e => e.kind = .interrupted

theorem cut_error {α : Type} {e : Errno} :
    cut (.error e : Except Errno α) = true ↔ e.kind = .interrupted :=
  decide_eq_true_iff

private theorem cut_map {α β : Type} (f : α → β) (answer : Except Errno α) :
    cut (answer.map f) = cut answer := by
  cases answer with
  | ok a => rfl
  | error e => rfl

end Host

/-- A call on a radio link that a signal cut short. -/
def Call.cut : Call → Bool
  | .send _ _ result | .receive _ _ result => Host.cut result
  | _ => false

namespace Host

variable {α : Type}

/-- The host without the signals that meet calls on a radio link, and without the calls that were
cut short. -/
def unsignaled (host : Host) : Host :=
  { host with
    script :=
      { host.script with
        send := host.script.send.filter (!cut ·)
        receive := host.script.receive.filter (!cut ·) }
    made := host.made.filter (!·.cut) }

/-- The hosts differ only in signals. -/
def ButSignals (one other : Host) : Prop := one.unsignaled = other.unsignaled

/-- The second host is the first one without its signals. -/
def Quiets (host quiet : Host) : Prop := host.unsignaled = quiet

/-- The next answer is to a call that is cut short, or it is the next one without signals too. -/
theorem answer_cases (queue : List (Except Errno α)) (ordinary : α) :
    (∃ e rest, answer queue (.ok ordinary) = (.error e, rest) ∧ e.kind = .interrupted ∧
      rest.filter (!cut ·) = queue.filter (!cut ·) ∧ rest.countP cut < queue.countP cut) ∨
    ∃ token rest, answer queue (.ok ordinary) = (token, rest) ∧ cut token = false ∧
      answer (queue.filter (!cut ·)) (.ok ordinary) = (token, rest.filter (!cut ·)) ∧
      rest.countP cut ≤ queue.countP cut := by
  cases queue with
  | nil => exact .inr ⟨.ok ordinary, [], rfl, rfl, rfl, Nat.le_refl _⟩
  | cons first rest =>
    -- The first answer is a signal, which the quiet host does not have, or it is the first there
    -- too.
    by_cases interrupted : cut first = true
    · left
      cases first with
      | ok a => simp [cut] at interrupted
      | error e =>
        refine ⟨e, rest, rfl, cut_error.mp interrupted, ?_, ?_⟩
        · simp [interrupted]
        · simp [interrupted]
    · right
      refine ⟨first, rest, rfl, by simpa using interrupted, ?_, ?_⟩
      · simp [interrupted, answer]
      · simp [interrupted]

private theorem retry_act (act : Act Host Errno α) (patience : Nat) (host : Host) :
    retry cut act patience host = persist act patience host := by
  induction patience generalizing host with
  | zero => rfl
  | succ patience ih =>
    simp only [retry, persist]
    rcases act host with ⟨e | a, after⟩
    · by_cases interrupted : e.kind = .interrupted
      · simp only [cut, interrupted, decide_true, if_true, ih]
      · simp [cut, interrupted]
    · rfl

/-- The act meets a signal, which it uses up, or it does what it does on the quiet host. -/
def Endures (signals : Host → Nat) (act : Act Host Errno α) : Prop :=
  ∀ host quiet, Quiets host quiet →
    (cut (act host).1 = true ∧ Quiets (act host).2 quiet ∧ signals (act host).2 < signals host) ∨
    (Agree Quiets (act host) (act quiet) ∧ signals (act host).2 ≤ signals host)

/-- A send either meets a signal and leaves the rest as it was, or ends as on the quiet host. -/
private theorem send_endures (on : Descriptor) (data : Bytes) :
    Endures (fun host => host.script.send.countP cut) (send on data) := by
  rintro host _ rfl
  rcases answer_cases host.script.send none with
    ⟨e, rest, next, interrupted, same, fewer⟩ | ⟨token, rest, next, final, next', kept⟩
  · left
    have refused : cut (.error e : Except Errno Nat) = true := cut_error.mpr interrupted
    simp only [send, next, Except.map]
    refine ⟨refused, ?_, fewer⟩
    simp [Quiets, unsignaled, record, same, Call.cut, refused]
  · right
    have final' : cut (token.map fun limit => taken limit data) = false := by rw [cut_map, final]
    have quiet : answer host.unsignaled.script.send (.ok none) = (token, rest.filter (!cut ·)) :=
      next'
    simp only [send, next, quiet]
    refine ⟨⟨rfl, ?_⟩, kept⟩
    simp [Quiets, unsignaled, record, Call.cut, final']

/-- A receive does so too, and no signal takes a byte from the stream. -/
private theorem receive_endures (on : Descriptor) (room : Nat) :
    Endures (fun host => host.script.receive.countP cut) (receive on room) := by
  rintro host _ rfl
  rcases answer_cases host.script.receive none with
    ⟨e, rest, next, interrupted, same, fewer⟩ | ⟨token, rest, next, final, next', kept⟩
  · left
    have refused {β : Type} : cut (.error e : Except Errno β) = true := cut_error.mpr interrupted
    simp only [receive, next]
    refine ⟨refused, ?_, fewer⟩
    simp [Quiets, unsignaled, record, same, Call.cut, refused]
  · right
    have quiet : answer host.unsignaled.script.receive (.ok none) = (token, rest.filter (!cut ·)) :=
      next'
    simp only [receive, next, quiet]
    -- The stream is not a part of what signals change, so both hosts give the same bytes.
    cases token with
    | ok limit =>
      refine ⟨⟨rfl, ?_⟩, kept⟩
      simp [Quiets, unsignaled, record, Call.cut, cut]
    | error e =>
      have final' : cut (.error e : Except Errno Nat) = false := final
      refine ⟨⟨rfl, ?_⟩, kept⟩
      simp [Quiets, unsignaled, record, Call.cut, final']

private theorem length_queue (queue : List (Except Errno α)) :
    (queue.filter (!cut ·)).length + queue.countP cut = queue.length := by
  rw [List.countP_eq_length_filter, Nat.add_comm]
  exact (List.length_eq_length_filter_add cut).symm

/-- Made again as often as there are answers in store, the act ends as it does without signals. -/
theorem Endures.persist {β : Type} {queue : Script → List (Except Errno β)}
    {act : Act Host Errno α} (endures : Endures (fun host => (queue host.script).countP cut) act)
    (uses : ∀ host e after, act.run host = (.error e, after) →
      (queue after.script).length < (queue host.script).length)
    (host : Host) (quiet : queue host.unsignaled.script = (queue host.script).filter (!cut ·)) :
    Agree Quiets (Host.persist act (queue host.script).length host)
      (Host.persist act (queue host.unsignaled.script).length host.unsignaled) := by
  -- Every signal takes an answer of its own from the store, and the quiet host keeps the others.
  have enough : (queue host.unsignaled.script).length + (queue host.script).countP cut ≤
      (queue host.script).length := by
    rw [quiet]
    exact Nat.le_of_eq (length_queue _)
  have settled :
      cut (retry cut act (queue host.unsignaled.script).length host.unsignaled).1 = false := by
    rw [retry_act]
    cases ended : Host.persist act (queue host.unsignaled.script).length host.unsignaled with
    | mk outcome after =>
      cases outcome with
      | ok a => rfl
      | error e =>
        have final : e.kind ≠ .interrupted := persist_final uses (Nat.le_refl _) ended
        simpa [cut] using final
  have quiets : Quiets host host.unsignaled := rfl
  have hidden := retry_hides (fun host : Host => (queue host.script).countP cut) endures enough
    quiets settled
  rwa [retry_act, retry_act] at hidden

end Host

namespace Radio

open Host

/-- The same link on a host with signals and on the quiet one. -/
def Link.Quiets (left right : Link × Host) : Prop :=
  left.1 = right.1 ∧ Host.Quiets left.2 right.2

/-- A radio link does the same on a host with signals as on the quiet one, read by read and write by
write. -/
theorem Link.quiets_alike : Backend.Alike Link.Quiets where
  read := by
    rintro room ⟨link, host⟩ ⟨_, _⟩ ⟨rfl, rfl⟩
    simp only [Backend.read]
    cases link.descriptor with
    -- Without a socket nothing is asked of the host.
    | none => exact ⟨rfl, rfl, rfl⟩
    | some on =>
      have agree := (receive_endures on room).persist (receive_uses on room) host rfl
      obtain ⟨outcome, after, after', ended, ended', quiets⟩ := agree.split
      simp only [ended, ended']
      cases outcome with
      | ok data => exact ⟨rfl, rfl, quiets⟩
      | error e => exact ⟨rfl, rfl, quiets⟩
  write := by
    rintro data ⟨link, host⟩ ⟨_, _⟩ ⟨rfl, rfl⟩
    simp only [Backend.write]
    cases link.descriptor with
    | none => exact ⟨rfl, rfl, rfl⟩
    | some on =>
      have agree := (send_endures on data).persist (send_uses on data) host rfl
      obtain ⟨outcome, after, after', ended, ended', quiets⟩ := agree.split
      simp only [ended, ended']
      cases outcome with
      | ok n => exact ⟨rfl, rfl, quiets⟩
      | error e => exact ⟨rfl, rfl, quiets⟩
  name _ _ _ := rfl
  patience _ _ _ := rfl

end Radio
end BrickControl
