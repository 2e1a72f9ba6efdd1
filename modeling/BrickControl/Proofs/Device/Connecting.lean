import BrickControl.Proofs.Device.Links

/-!
# Failures to connect

What can go wrong before a device is open is a failure to connect, whatever step of connecting it
comes from: the search for a peer, the sockets and the USB device each have an error of their own
for it.
-/
namespace BrickControl

/-- The act has no failures but these. -/
def Act.Blames {σ ε α : Type} (blamed : ε → Prop) (act : Act σ ε α) : Prop :=
  ∀ state e reached, act.run state = (.error e, reached) → blamed e

namespace Act

variable {σ ε ε' α β : Type} {blamed : ε → Prop}

theorem blames_known {outcome : Except ε α} (known : ∀ e, outcome = .error e → blamed e) :
    (ofExcept outcome : Act σ ε α).Blames blamed :=
  fun _ e _ failed => known e (congrArg Prod.fst failed)

theorem blames_ok (a : α) : (ofExcept (.ok a) : Act σ ε α).Blames blamed :=
  blames_known (by rintro e ⟨⟩)

theorem blames_attempt (act : Act σ ε' α) : (act.attempt : Act σ ε _).Blames blamed := by
  intro state e reached failed
  cases congrArg Prod.fst failed

/-- A failure comes from the first act or, after a value, from the second. -/
theorem Blames.bind {act : Act σ ε α} {next : α → Act σ ε β} (first : act.Blames blamed)
    (second : ∀ a, (next a).Blames blamed) : (act >>= next).Blames blamed := by
  intro state e reached failed
  -- The failure is the one of the act at which the run stopped.
  cases ended : act.run state with
  | mk outcome between =>
    cases outcome with
    | error e' =>
      rw [bind_run_error ended] at failed
      cases failed
      exact first state e reached ended
    | ok a =>
      rw [bind_run_ok ended] at failed
      exact second a between e reached failed

theorem Blames.ite {c : Prop} [Decidable c] {yes no : Act σ ε α} (first : yes.Blames blamed)
    (second : no.Blames blamed) : (if c then yes else no).Blames blamed := by
  split
  · exact first
  · exact second

/-- Where every cause is wrapped in an error of the kind, the act has no others. -/
theorem blames_mapError {f : ε' → ε} (all : ∀ e, blamed (f e)) (act : Act σ ε' α) :
    (act.mapError f).Blames blamed := by
  intro state e reached failed
  obtain ⟨cause, _, rfl⟩ := mapError_failed failed
  exact all cause

theorem Blames.mapError {blamed' : ε' → Prop} {act : Act σ ε α} {f : ε → ε'}
    (blames : act.Blames blamed) (maps : ∀ e, blamed e → blamed' (f e)) :
    (act.mapError f).Blames blamed' := by
  intro state e reached failed
  obtain ⟨cause, below, rfl⟩ := mapError_failed failed
  exact maps cause (blames state cause reached below)

section

variable {act : Act σ ε α} (blames : act.Blames blamed) (cleanup : σ → σ)

include blames

theorem Blames.onFailure : (act.onFailure cleanup).Blames blamed := by
  intro state e reached failed
  simp only [run, Act.onFailure] at failed
  cases ended : act state with
  | mk outcome last =>
    rw [ended] at failed
    cases outcome with
    | ok a => cases failed
    | error e' =>
      cases failed
      exact blames state e last ended

theorem Blames.afterwards : (act.afterwards cleanup).Blames blamed := by
  intro state e reached failed
  simp only [run, Act.afterwards] at failed
  cases ended : act state with
  | mk outcome last =>
    rw [ended] at failed
    cases failed
    exact blames state e last ended

end

end Act

namespace Radio

open Act

/-- A search ends without a peer or with one; a peer that does not answer is no failure of the
search. -/
private theorem PeerScanner.firstNamed_blames {σ : Type} (scanner : PeerScanner σ) (name : String)
    (peers : List Address) :
    (scanner.firstNamed name peers).Blames fun e => e.isConnectFailure := by
  induction peers with
  | nil => exact blames_known (by rintro e ⟨⟩; rfl)
  | cons peer others ih =>
    refine (blames_attempt _).bind fun answered => ?_
    -- The answer of a peer was attempted, so it is a value either way.
    cases answered with
    | error e => exact ih
    | ok found => exact .ite (blames_ok _) ih

private theorem Link.locate_blames (destination : String) (config : Config) :
    (locate destination config).Blames fun e => e.isConnectFailure := by
  refine .bind (blames_known ?_) fun parsed => ?_
  · intro e failed
    -- Only an empty text is neither an address nor a name.
    simp only [Destination.parse] at failed
    split at failed
    · cases failed
      rfl
    · split at failed
      · cases failed
      · cases failed
  · cases parsed with
    | address a => exact blames_ok _
    | name n =>
      refine (blames_mapError (fun _ => by rfl) _).bind fun adapter => .afterwards ?_ _
      exact (blames_mapError (fun _ => by rfl) _).bind fun peers =>
        adapter.scanner.firstNamed_blames n peers

private theorem Link.connect_blames (destination : String) (config : Config) :
    (connect destination config).Blames fun e => e.isConnectFailure := by
  refine (locate_blames destination config).bind fun address => ?_
  refine (blames_mapError (fun _ => by rfl) _).bind fun socket => .onFailure ?_ _
  -- The option is set as far as the host allows; whether it was is not asked.
  refine (blames_attempt _).bind fun _ => ?_
  exact (blames_mapError (fun _ => by rfl) _).bind fun _ => blames_ok _

end Radio

private theorem Usb.Link.open_blames (vendor product : UInt16) (config : Config) :
    (Usb.Link.open vendor product config).Blames fun e => e.isConnectFailure := by
  intro host e reached failed
  have opened := Usb.Link.open_opened vendor product config host
  rw [failed] at opened
  cases opened with
  | missing => rfl
  | refused => rfl

namespace Device

/-- A failure to connect, as a command tells it. -/
def Unconnected (e : CommandError) : Prop :=
  ∃ cause : TransportError, cause.isConnectFailure ∧ e = .cannotConnect cause

/-- A command tells a failure to connect from a failure of the link. -/
theorem unconnected_ofTransport {cause : TransportError} (fails : cause.isConnectFailure) :
    Unconnected (.ofTransport cause) := by
  refine ⟨cause, fails, ?_⟩
  -- The causes that are no failure to connect contradict the hypothesis.
  cases cause <;> first | rfl | cases fails

/-- No step of opening a radio device has a failure of another kind. -/
theorem openRadio_blames (destination : String) (config : Radio.Config) :
    (openRadio destination config).Blames Unconnected :=
  ((Radio.Link.connect_blames destination config).mapError fun _ => unconnected_ofTransport).bind
    fun _ => Act.blames_ok _

theorem openUsb_blames (vendor product : UInt16) (config : Usb.Config) :
    (openUsb vendor product config).Blames Unconnected :=
  ((Usb.Link.open_blames vendor product config).mapError fun _ => unconnected_ofTransport).bind
    fun _ => Act.blames_ok _

/-- What the first attempt failed with is forgotten, so the fallback alone is to blame. -/
theorem firstAvailable_blames {primary fallback : Act Host CommandError Device}
    {blamed : CommandError → Prop} (second : fallback.Blames blamed) :
    (firstAvailable primary fallback).Blames blamed := by
  intro host e reached failed
  simp only [Act.run, firstAvailable] at failed
  cases ended : primary host with
  | mk outcome between =>
    rw [ended] at failed
    cases outcome with
    | ok device => cases failed
    | error e' => exact second between e reached failed

end Device
end BrickControl
