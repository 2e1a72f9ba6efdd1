import BrickControl.Proofs.Backend.Rehearsal
import BrickControl.Proofs.Connection.Uses

/-!
# The life of a connection

A backend is watched by keeping the calls made on it. Over a whole life, which ends when the
connection is dropped, its close is called exactly once, and nothing is called after that; from
then on the connection only tells that it is closed.
-/
namespace BrickControl

inductive BackendCall where
  | read (room : Nat)
  | write (data : Bytes)
  | close
  deriving DecidableEq

/-- A backend and the calls that were made on it. -/
structure Watched (σ : Type) where
  backend : σ
  calls : List BackendCall := []

namespace Watched

variable {σ : Type} [Backend σ]

instance : Backend (Watched σ) where
  name watched := Backend.name watched.backend
  read room := fun watched =>
    match Backend.read room watched.backend with
    | (delivery, backend) => (delivery, ⟨backend, watched.calls ++ [.read room]⟩)
  write data := fun watched =>
    match Backend.write data watched.backend with
    | (outcome, backend) => (outcome, ⟨backend, watched.calls ++ [.write data]⟩)
  close := fun watched =>
    match Backend.close watched.backend with
    | (outcome, backend) => (outcome, ⟨backend, watched.calls ++ [.close]⟩)
  patience watched := Backend.patience watched.backend

def Shows (watched : Watched σ) (backend : σ) : Prop := watched.backend = backend

/-- A backend does not behave differently when it is watched. -/
theorem shows_alike : Backend.Alike (Shows : Watched σ → σ → Prop) where
  read := by
    rintro room watched _ rfl
    exact ⟨rfl, rfl⟩
  write := by
    rintro data watched _ rfl
    exact ⟨rfl, rfl⟩
  name := by
    rintro watched _ rfl
    rfl
  patience := by
    rintro watched _ rfl
    rfl

private theorem shows_close (watched : Watched σ) (backend : σ) (shown : Shows watched backend) :
    Agree Shows (Backend.close watched : _ × Watched σ) (Backend.close backend : _ × σ) := by
  cases shown
  exact ⟨rfl, rfl⟩

def NeverClosed (watched : Watched σ) : Prop := .close ∉ watched.calls

theorem keeps_neverClosed : Backend.Keeps (NeverClosed : Watched σ → Prop) where
  read := by
    intro room watched never
    simpa [NeverClosed, Backend.read] using never
  write := by
    intro data watched never
    simpa [NeverClosed, Backend.write] using never

end Watched

namespace Connection

variable {σ : Type} [Backend σ] {framing : Framing} {opened : Bool}

private theorem live_alike {τ : Type} [Backend τ] {R : σ → τ → Prop} (alike : Backend.Alike R)
    (closes : ∀ s t, R s t → Agree R (Backend.close s : _ × σ) (Backend.close t : _ × τ))
    (uses : List Use) (left : Connection σ) (right : Connection τ)
    (linked : Linked R framing opened left right) :
    (live uses left).1 = (live uses right).1 := by
  -- A close changes whether the connections are open, on both sides alike.
  induction uses generalizing left right opened with
  | nil => rfl
  | cons use rest ih =>
    by_cases last : use = .close
    · subst last
      obtain ⟨now, agree⟩ := close_alike closes left right linked
      obtain ⟨outcome, left', right', ended, ended', linked'⟩ := agree.split
      simp only [live, Use.apply, ended, ended', ih left' right' linked']
    · obtain ⟨seen, left', right', ended, ended', linked'⟩ :=
        (Use.apply_alike alike last left right linked).split
      simp only [live, ended, ended', ih left' right' linked']

/-- Short of a close a life keeps what single uses keep. -/
theorem live_keeps {I : σ → Prop} (keeps : Backend.Keeps I) {uses : List Use}
    (short : .close ∉ uses) (framing : Framing) (opened : Bool) {s : σ} (holds : I s) :
    ∃ after, (live uses ⟨framing, opened, s⟩).2 = ⟨framing, opened, after⟩ ∧ I after := by
  induction uses generalizing s with
  | nil => exact ⟨s, rfl, holds⟩
  | cons use rest ih =>
    rw [List.mem_cons, not_or] at short
    obtain ⟨other, short⟩ := short
    -- The connection stays open after each use, so the next one finds it as it was.
    obtain ⟨seen, between, one, holds⟩ :=
      Use.apply_keeps keeps (Ne.symm other) framing opened holds
    obtain ⟨after, others, holds⟩ := ih short holds
    exact ⟨after, by simp only [live, one, others], holds⟩

/-- After the close every accepted use tells that the connection is closed, and nothing changes. -/
private theorem live_closed {uses : List Use} (accepted : ∀ use ∈ uses, use.Accepted) {s : σ} :
    live uses ⟨framing, false, s⟩ = (uses.map Use.onClosed, ⟨framing, false, s⟩) := by
  induction uses with
  | nil => rfl
  | cons use rest ih =>
    obtain ⟨head, tail⟩ := List.forall_mem_cons.mp accepted
    obtain ⟨stays, tells⟩ := use.apply_closed framing s
    simp only [live, stays, tells head, ih tail, List.map_cons]

/-- The close of an open connection is one call of the backend, and its outcome is handed on. -/
theorem close_watched (watched : Watched σ) :
    close (⟨framing, true, watched⟩ : Connection (Watched σ)) =
      ((Backend.close watched.backend).1.mapError .ofTransport,
        ⟨framing, false, (Backend.close watched.backend).2, watched.calls ++ [.close]⟩) := rfl

/-- The first explicit close is the one that reaches the backend. -/
theorem live_closing {early rest : List Use} (first : .close ∉ early)
    (later : ∀ use ∈ rest, use.Accepted) (framing : Framing) (backend : σ) :
    let connection : Connection (Watched σ) := ⟨framing, true, backend, []⟩
    let reached := (live early connection).2.backend
    let closed := Backend.close reached.backend
    .close ∉ reached.calls ∧
    live (early ++ .close :: rest) connection =
      ((live early connection).1 ++
          .closed (closed.1.mapError .ofTransport) :: rest.map Use.onClosed,
        ⟨framing, false, closed.2, reached.calls ++ [.close]⟩) := by
  intro connection
  -- Up to the first close the connection stays open, so the close finds it open.
  have fresh : Watched.NeverClosed (⟨backend, []⟩ : Watched σ) := List.not_mem_nil
  obtain ⟨reached, arrived, never⟩ := live_keeps Watched.keeps_neverClosed first framing true fresh
  have arrived : (live early connection).2 = ⟨framing, true, reached⟩ := arrived
  simp only [live_append, arrived, live, Use.apply, close_watched, live_closed later]
  exact ⟨never, trivial⟩

/-- Without an explicit close the drop reaches the backend. -/
theorem live_dropping {uses : List Use} (short : .close ∉ uses) (framing : Framing) (backend : σ) :
    let lived := (live uses (⟨framing, true, backend, []⟩ : Connection (Watched σ))).2
    .close ∉ lived.backend.calls ∧ lived.drop.isOpen = false ∧
    lived.drop.backend.calls = lived.backend.calls ++ [.close] := by
  have fresh : Watched.NeverClosed (⟨backend, []⟩ : Watched σ) := List.not_mem_nil
  obtain ⟨reached, arrived, never⟩ := live_keeps Watched.keeps_neverClosed short framing true fresh
  simp only [arrived, drop, close_watched]
  exact ⟨never, trivial, trivial⟩

/-- Over its whole life a connection closes its backend exactly once, and makes no call on it later.
The first explicit close does so, whether or not it succeeds, and all that comes after finds the
connection closed; without an explicit close the drop does so. -/
theorem live_closes_once (backend : σ) (framing : Framing) (uses : List Use)
    (accepted : ∀ use ∈ uses, use.Accepted) :
    let connection : Connection (Watched σ) := ⟨framing, true, backend, []⟩
    let lived := live uses connection
    let ended := lived.2.drop
    (∃ before, ended.backend.calls = before ++ [.close] ∧ .close ∉ before) ∧
    (∀ early rest, uses = early ++ .close :: rest → .close ∉ early →
      let reached := (live early connection).2.backend
      let closed := Backend.close reached.backend
      .close ∉ reached.calls ∧
      lived.1 = (live early connection).1 ++
        .closed (closed.1.mapError .ofTransport) :: rest.map Use.onClosed ∧
      lived.2 = ⟨framing, false, closed.2, reached.calls ++ [.close]⟩ ∧ ended = lived.2) ∧
    (.close ∉ uses → .close ∉ lived.2.backend.calls ∧ ended.isOpen = false ∧
      ended.backend.calls = lived.2.backend.calls ++ [.close]) ∧
    lived.1 = (live uses (⟨framing, true, backend⟩ : Connection σ)).1 := by
  intro connection lived ended
  have unwatched : lived.1 = (live uses (⟨framing, true, backend⟩ : Connection σ)).1 :=
    live_alike Watched.shows_alike Watched.shows_close uses _ _ (.intro rfl)
  -- The close that reaches the backend is the first explicit one, or else the one of the drop.
  by_cases closes : .close ∈ uses
  · have explicit (early rest : List Use) (parts : uses = early ++ .close :: rest)
        (first : .close ∉ early) := live_closing first
      (fun use (member : use ∈ rest) => accepted use (by simp [parts, member])) framing backend
    refine ⟨?_, fun early rest parts first => ?_, absurd closes, unwatched⟩
    · -- What comes after the first close finds the connection closed and adds no call.
      obtain ⟨early, rest, parts, first⟩ := List.eq_append_cons_of_mem closes
      obtain ⟨never, whole⟩ := explicit early rest parts first
      refine ⟨(live early connection).2.backend.calls, ?_, never⟩
      simp only [ended, lived, parts, connection, whole]
      rfl
    · obtain ⟨never, whole⟩ := explicit early rest parts first
      simp only [ended, lived, parts, connection, whole]
      exact ⟨never, trivial, trivial, rfl⟩
  · obtain ⟨never, shut, calls⟩ := live_dropping closes framing backend
    refine ⟨⟨_, calls, never⟩, fun early rest parts _ => ?_, fun _ => ⟨never, shut, calls⟩,
      unwatched⟩
    exact absurd (by simp [parts]) closes

/-- A brick is asked over a stream whose close is refused; the drop does not close it again. -/
theorem live_closes_once_refused :
    let backend : Rehearsal :=
      { supply := .stream [5, 0, 2, 0x0B, 0, 0x40, 0x1F]
        closePlan := [.fails (.unsupported "usb")] }
    let connection : Connection (Watched Rehearsal) := ⟨.stream, true, backend, []⟩
    let early : List Use := [.name, .perform (.plain .getBatteryLevel)]
    let rest : List Use := [.isOpen, .close, .read [7, 7], .perform (.plain .keepAlive)]
    let lived := live (early ++ .close :: rest) connection
    (∀ use ∈ early ++ .close :: rest, use.Accepted) ∧
    lived.2.drop.backend.calls =
      [.write [2, 0, 0, 0x0B], .read 2, .read 5, .close] ∧
    lived.1 = (live early connection).1 ++
      [.closed (.error (.backendUnavailable "usb")), .isOpen false, .closed (.ok ()),
        .filled ⟨.error .entityClosed, [7, 7]⟩,
        .performed (.answered .keepAlive (.error .entityClosed))] := by
  intro backend connection early rest lived
  have accepted : ∀ use ∈ early ++ .close :: rest, use.Accepted := by
    simp [early, rest, Use.Accepted, Command.check, Operation.command]
  obtain ⟨_, explicit, _⟩ := live_closes_once backend .stream (early ++ .close :: rest) accepted
  obtain ⟨_, seen, last, stays⟩ := explicit early rest rfl (by decide)
  have plan : (live early connection).2.backend.backend.closePlan =
      [.fails (.unsupported "usb")] := by decide +kernel
  have refused : (Backend.close (live early connection).2.backend.backend).1 =
      .error (.unsupported "usb") := by
    simp only [Backend.close, Rehearsal.turn, plan]
  refine ⟨accepted, ?_, ?_⟩
  · rw [stays, last]
    decide +kernel
  · rw [refused] at seen
    exact seen

end Connection
end BrickControl
