import BrickControl.Envelope

/-!
# Carriers of envelopes

A carrier owns a backend and one buffer, in which it lays out each envelope before it is sent. The
buffer is used again for the next envelope, so each call empties it first: a call that failed may
have left an envelope behind.
-/
namespace BrickControl.Envelope

/-- Lays out a body behind what the buffer holds. A body that is too long leaves the buffer as it
was. -/
def append (body : Bytes) : Act Bytes FrameError Unit := fun buffer =>
  match encode body with
  | .ok envelope => (.ok (), buffer ++ envelope)
  | .error e => (.error e, buffer)

/-- A backend and the buffer for what is sent over it. -/
structure Carrier (σ : Type) where
  backend : σ
  buffer : Bytes := []

namespace Carrier

variable {σ : Type} [Backend σ]

/-- Sends one body; the result is the length of the body. -/
def send (body : Bytes) : Act (Carrier σ) FrameError Nat := fun carrier =>
  -- The envelope is laid out in an empty buffer, whatever the carrier's buffer holds.
  match append body [] with
  | (.error e, buffer) => (.error e, { carrier with buffer })
  | (.ok (), buffer) =>
    match sendAll buffer carrier.backend with
    | (.ok (), backend) => (.ok body.length, { backend, buffer })
    | (.error e, backend) => (.error (.transport e), { backend, buffer })

/-- Receives one body into a buffer of the caller. -/
def receive (into : Bytes) (carrier : Carrier σ) : Filled FrameError × Carrier σ :=
  match Envelope.receive into carrier.backend with
  | (filled, backend) => (filled, { carrier with backend })

/-- Closes the backend. -/
def close : Act (Carrier σ) FrameError Unit := fun carrier =>
  match Envelope.close carrier.backend with
  | (outcome, backend) => (outcome, { carrier with backend })

end Carrier
end BrickControl.Envelope
