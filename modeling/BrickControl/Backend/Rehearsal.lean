import BrickControl.Backend

/-!
# Rehearsed backends

A backend that follows a plan instead of reaching a brick. It keeps the calls made on it, and it
can be told to give and take in small pieces, to fail, and to report counts that are not true.
-/
namespace BrickControl

/-- What a rehearsed backend does at one call. -/
inductive Turn where
  /-- Moves at most so many bytes, or as many as there are. -/
  | upTo (limit : Option Nat)
  /-- Moves what it can and reports this count. -/
  | claims (count : Nat)
  /-- Fails. -/
  | fails (error : TransportError)
  deriving DecidableEq, Repr

/-- One call on a rehearsed backend; a failed call has no count. -/
inductive RehearsedCall where
  | read (room : Nat) (count : Option Nat)
  | write (data : Bytes) (count : Option Nat)
  | close (succeeded : Bool)
  deriving DecidableEq, Repr

/-- What a rehearsed backend has to give. -/
inductive Supply where
  /-- Bytes in a row. -/
  | stream (bytes : Bytes)
  /-- Packets; a read takes a whole one, and what has no room is lost. -/
  | packets (queue : List Bytes)
  deriving DecidableEq, Repr

namespace Supply

/-- Takes at most `limit` bytes. -/
def take (limit : Nat) : Supply → Bytes × Supply
  | .stream bytes => (bytes.take limit, .stream (bytes.drop limit))
  | .packets [] => ([], .packets [])
  | .packets (first :: rest) => (first.take limit, .packets rest)

/-- Adds bytes, or one more packet. -/
def push (data : Bytes) : Supply → Supply
  | .stream bytes => .stream (bytes ++ data)
  | .packets queue => .packets (queue ++ [data])

/-- The number of bytes left. -/
def size : Supply → Nat
  | .stream bytes => bytes.length
  | .packets queue => queue.flatten.length

end Supply

/-- A backend that follows a plan. -/
structure Rehearsal where
  name : String := "custom"
  supply : Supply
  readPlan : List Turn := []
  writePlan : List Turn := []
  closePlan : List Turn := []
  /-- The limit of a read when its plan is used up. -/
  readLimit : Option Nat := none
  /-- The limit of a write when its plan is used up. -/
  writeLimit : Option Nat := none
  /-- The calls made so far, the latest one first. -/
  made : List RehearsedCall := []

namespace Rehearsal

/-- A limit cut to what there is. -/
def within (limit : Option Nat) (size : Nat) : Nat :=
  match limit with
  | some k => min k size
  | none => size

/-- The first turn of a plan and the rest of it. -/
def turn (plan : List Turn) (limit : Option Nat) : Turn × List Turn :=
  match plan with
  | [] => (.upTo limit, [])
  | first :: rest => (first, rest)

instance : Backend Rehearsal where
  name rehearsal := rehearsal.name
  read room := fun rehearsal =>
    let (now, readPlan) := turn rehearsal.readPlan rehearsal.readLimit
    match now with
    | .fails e =>
      (⟨[], .error e⟩,
        { rehearsal with readPlan, made := .read room none :: rehearsal.made })
    | .upTo limit =>
      let (data, supply) := rehearsal.supply.take (within limit room)
      (⟨data, .ok data.length⟩,
        { rehearsal with
          readPlan, supply, made := .read room (some data.length) :: rehearsal.made })
    | .claims count =>
      let (data, supply) := rehearsal.supply.take room
      (⟨data, .ok count⟩,
        { rehearsal with readPlan, supply, made := .read room (some count) :: rehearsal.made })
  write data := fun rehearsal =>
    let (now, writePlan) := turn rehearsal.writePlan rehearsal.writeLimit
    match now with
    | .fails e =>
      (.error e, { rehearsal with writePlan, made := .write data none :: rehearsal.made })
    | .upTo limit =>
      let count := within limit data.length
      (.ok count,
        { rehearsal with writePlan, made := .write data (some count) :: rehearsal.made })
    | .claims count =>
      (.ok count,
        { rehearsal with writePlan, made := .write data (some count) :: rehearsal.made })
  close := fun rehearsal =>
    let (now, closePlan) := turn rehearsal.closePlan none
    match now with
    | .fails e =>
      (.error e, { rehearsal with closePlan, made := .close false :: rehearsal.made })
    | _ => (.ok (), { rehearsal with closePlan, made := .close true :: rehearsal.made })
  patience rehearsal := max rehearsal.readPlan.length rehearsal.writePlan.length

/-- Adds to what the backend has to give. -/
def push (data : Bytes) (rehearsal : Rehearsal) : Rehearsal :=
  { rehearsal with supply := rehearsal.supply.push data }

/-- The calls made so far, in their order. -/
def calls (rehearsal : Rehearsal) : List RehearsedCall := rehearsal.made.reverse

end Rehearsal
end BrickControl
