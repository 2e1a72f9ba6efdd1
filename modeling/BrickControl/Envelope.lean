import BrickControl.Backend
import BrickControl.TransportError

/-!
# Envelopes

A byte stream has no message boundaries, so each message travels behind its length, a two-byte
field. `send` offers an envelope until all of it is taken. `receive` takes one envelope off the
stream: what the caller's buffer cannot hold is read and thrown away, so that the next envelope
starts where this one ends.
-/
namespace BrickControl.Envelope

/-- The size of the length field. -/
def headerSize : Nat := 2

/-- The longest body that the length field can describe. -/
def maxBody : Nat := 65535

/-- The largest piece in which unwanted bytes are read. -/
def drainSize : Nat := 2

/-- A body behind its length. -/
def encode (body : Bytes) : Except FrameError Bytes :=
  if body.length > maxBody then .error (.bodyTooLarge body.length maxBody)
  else .ok (Bytes.littleEndian headerSize body.length ++ body)

variable {σ : Type} [Backend σ]

/-- Offers `rest` until all of it is taken. A write that takes nothing ends the attempt. -/
def sendAll (rest : Bytes) (state : σ) : Except TransportError Unit × σ :=
  if _ : rest = [] then (.ok (), state)
  else match Backend.steadyWrite rest state with
    | (.error e, after) => (.error e, after)
    | (.ok 0, after) => (.error .disconnected, after)
    | (.ok (n + 1), after) => sendAll (rest.drop (n + 1)) after
termination_by rest.length
decreasing_by
  have : 0 < rest.length := List.length_pos_iff.mpr ‹¬rest = []›
  simp only [List.length_drop]
  omega

/-- Sends one body in its envelope; the result is the length of the body. -/
def send (body : Bytes) : Act σ FrameError Nat := fun state =>
  match encode body with
  | .error e => (.error e, state)
  | .ok envelope =>
    match sendAll envelope state with
    | (.ok (), state) => (.ok body.length, state)
    | (.error e, state) => (.error (.transport e), state)

/-- Reads a length field, which has to come in one piece. -/
def receiveHeader : Act σ FrameError Nat := fun state =>
  match Backend.steadyRead (List.replicate headerSize 0) state with
  | (⟨.error e, _⟩, state) => (.error (.transport e), state)
  | (⟨.ok n, header⟩, state) =>
    -- A length field is never put together from two reads: a single byte ends the attempt.
    if n = 0 then (.error (.transport .disconnected), state)
    else if n = headerSize then (.ok header.value, state)
    else (.error (.shortHeader n), state)

/-- Reads until the buffer is full; the result holds the buffer. -/
def fillAll (buffer : Bytes) (state : σ) : (Except TransportError Unit × Bytes) × σ :=
  if _ : buffer = [] then ((.ok (), []), state)
  else match _equal : Backend.steadyRead buffer state with
    | (⟨.error e, held⟩, after) => ((.error e, held), after)
    | (⟨.ok 0, held⟩, after) => ((.error .disconnected, held), after)
    | (⟨.ok (n + 1), held⟩, after) =>
      match fillAll (held.drop (n + 1)) after with
      | ((outcome, rest), last) => ((outcome, held.take (n + 1) ++ rest), last)
termination_by buffer.length
decreasing_by
  have same : held.length = buffer.length := by
    simpa only [_equal] using Backend.length_steadyRead buffer state
  have : 0 < buffer.length := List.length_pos_iff.mpr ‹¬buffer = []›
  simp only [List.length_drop]
  omega

/-- Reads `remaining` bytes and throws them away. -/
def drain (remaining : Nat) (state : σ) : Except TransportError Unit × σ :=
  if remaining = 0 then (.ok (), state)
  else match Backend.steadyRead (List.replicate (min remaining drainSize) 0) state with
    | (⟨.error e, _⟩, state) => (.error e, state)
    | (⟨.ok 0, _⟩, state) => (.error .disconnected, state)
    | (⟨.ok (n + 1), _⟩, state) => drain (remaining - (n + 1)) state
termination_by remaining
decreasing_by omega

/-- Receives one body into a buffer. The result is the number of bytes kept, which is less than the
length of the body when the buffer is too small. -/
def receive (buffer : Bytes) (state : σ) : Filled FrameError × σ :=
  match receiveHeader state with
  | (.error e, state) => (⟨.error e, buffer⟩, state)
  | (.ok length, state) =>
    match fillAll (buffer.take length) state with
    | ((.error e, body), state) =>
      (⟨.error (.transport e), body ++ buffer.drop length⟩, state)
    | ((.ok (), body), state) =>
      match drain (length - buffer.length) state with
      | (.error e, state) => (⟨.error (.transport e), body ++ buffer.drop length⟩, state)
      | (.ok (), state) =>
        (⟨.ok (min length buffer.length), body ++ buffer.drop length⟩, state)

/-- Closes the stream, which sends nothing more. -/
def close : Act σ FrameError Unit := (Backend.close : Act σ TransportError Unit).mapError .transport

end BrickControl.Envelope
