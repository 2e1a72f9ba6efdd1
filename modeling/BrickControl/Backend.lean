import BrickControl.Act
import BrickControl.Bytes
import BrickControl.TransportError

/-!
# Backends

A backend moves bytes to and from a brick. Its calls report counts, and nothing keeps a backend
from reporting a wrong one, so a read says apart what it stored and what it claims. A call that a
signal cut short can be made again; `steadyRead` and `steadyWrite` do so and hide the interruption.
-/
namespace BrickControl

/-- What one read did: the bytes it put at the front of the buffer, and what it reported. -/
structure Delivery where
  stored : Bytes
  outcome : Except TransportError Nat

/-- Something that carries bytes to and from a brick, in whatever state `σ` it is. -/
class Backend (σ : Type) where
  /-- The backend's name in diagnostics. -/
  name : σ → String
  /-- Reads into a buffer of the given size. -/
  read : Nat → σ → Delivery × σ
  /-- Writes the data and reports how much of it was taken. -/
  write : Bytes → Act σ TransportError Nat
  /-- Gives the resource back. -/
  close : Act σ TransportError Unit
  /-- How many calls in a row a signal can cut short. -/
  patience : σ → Nat

/-- The end of a read: what it reported, and the caller's buffer after it. -/
structure Filled (ε : Type) where
  outcome : Except ε Nat
  buffer : Bytes

namespace Backend

variable {σ : Type} [Backend σ]

/-- One read into a buffer. -/
def readOnce (buffer : Bytes) (state : σ) : Filled TransportError × σ :=
  match Backend.read buffer.length state with
  | (delivery, state) => (⟨delivery.outcome, Bytes.overlay delivery.stored buffer⟩, state)

/-- Reads again as long as a signal cuts the read short, at most `patience` times. -/
def readAgain : Nat → Bytes → σ → Filled TransportError × σ
  | 0, buffer, state => readOnce buffer state
  | patience + 1, buffer, state =>
    match readOnce buffer state with
    | (⟨.ok n, buffer⟩, state) => (⟨.ok n, buffer⟩, state)
    | (⟨.error e, buffer⟩, state) =>
      if e.isInterruption then readAgain patience buffer state else (⟨.error e, buffer⟩, state)

/-- Writes again as long as a signal cuts the write short, at most `patience` times. -/
def writeAgain : Nat → Bytes → Act σ TransportError Nat
  | 0, data => Backend.write data
  | patience + 1, data => fun state =>
    match Backend.write data state with
    | (.ok n, state) => (.ok n, state)
    | (.error e, state) =>
      if e.isInterruption then writeAgain patience data state else (.error e, state)

/-- A read without its interruptions. -/
def steadyRead (buffer : Bytes) (state : σ) : Filled TransportError × σ :=
  readAgain (Backend.patience state) buffer state

/-- A write without its interruptions. -/
def steadyWrite (data : Bytes) : Act σ TransportError Nat := fun state =>
  writeAgain (Backend.patience state) data state

theorem length_readOnce (buffer : Bytes) (state : σ) :
    (readOnce buffer state).1.buffer.length = buffer.length := by
  simp [readOnce]

theorem length_readAgain (patience : Nat) (buffer : Bytes) (state : σ) :
    (readAgain patience buffer state).1.buffer.length = buffer.length := by
  induction patience generalizing buffer state with
  | zero => exact length_readOnce buffer state
  | succ patience ih =>
    have once := length_readOnce buffer state
    unfold readAgain
    split
    next equal => rw [equal] at once; exact once
    next equal =>
      rw [equal] at once
      split
      · rw [ih]; exact once
      · exact once

/-- A read never changes the size of the buffer. -/
theorem length_steadyRead (buffer : Bytes) (state : σ) :
    (steadyRead buffer state).1.buffer.length = buffer.length :=
  length_readAgain _ buffer state

end Backend
end BrickControl
