import BrickControl.Proofs.Backend.Rehearsal

/-!
# Round trip through a stream

Bodies that are sent over a stream arrive whole, in order and one per call, however the writes and
reads are cut into pieces and interrupted. A buffer that is too small gets the front of its body;
the rest of that body is gone when the next call starts.
-/
namespace BrickControl.Envelope

variable {σ : Type} [Backend σ]

/-- Sends the bodies one after the other. -/
def sendEach : List Bytes → σ → List (Except FrameError Nat) × σ
  | [], state => ([], state)
  | body :: rest, state =>
    ((send body state).1 :: (sendEach rest (send body state).2).1,
      (sendEach rest (send body state).2).2)

def receiveEach : List Bytes → σ → List (Filled FrameError) × σ
  | [], state => ([], state)
  | buffer :: rest, state =>
    ((receive buffer state).1 :: (receiveEach rest (receive buffer state).2).1,
      (receiveEach rest (receive buffer state).2).2)

/-- Whenever one of these calls starts, the next read that is not interrupted gives a length field
whole. -/
def HeadersNext : List Bytes → Rehearsal → Prop
  | [], _ => True
  | buffer :: rest, state => state.HeaderNext ∧ HeadersNext rest (receive buffer state).2

private theorem sendEach_stream (bodies : List Bytes)
    (small : ∀ body ∈ bodies, body.length ≤ maxBody)
    (sender : Rehearsal) (advance : sender.WritesAdvance) :
    (sendEach bodies sender).1 = bodies.map (fun body => .ok body.length) ∧
    (sendEach bodies sender).2.accepted = sender.accepted ++ bodies.flatMap wrap := by
  induction bodies generalizing sender with
  | nil => simp [sendEach]
  | cons body rest ih =>
    obtain ⟨after, sent, taken, advance', _⟩ :=
      Rehearsal.send_advancing advance body (small body (List.mem_cons_self ..))
    -- The state after a body still lets writes advance, so the next body is sent in the same way.
    obtain ⟨counts, accepted⟩ := ih (fun b member => small b (List.mem_cons_of_mem body member))
      after advance'
    simp only [sendEach, sent, counts, accepted, taken, List.map_cons, List.flatMap_cons,
      List.append_assoc, and_self]

/-- One envelope after the other is taken off the stream, each into the buffer of its call. -/
private theorem receiveEach_stream (bodies buffers : List Bytes)
    (paired : buffers.length = bodies.length)
    (small : ∀ body ∈ bodies, body.length ≤ maxBody) (receiver : Rehearsal)
    (advance : receiver.ReadsAdvance) (supply : receiver.supply = .stream (bodies.flatMap wrap))
    (whole : HeadersNext buffers receiver) :
    (receiveEach buffers receiver).1 = List.zipWith (fun body buffer =>
      ⟨.ok (min body.length buffer.length), Bytes.overlay body buffer⟩) bodies buffers ∧
    (receiveEach buffers receiver).2.supply = .stream [] := by
  induction bodies generalizing buffers receiver with
  | nil =>
    obtain rfl := List.eq_nil_of_length_eq_zero paired
    exact ⟨rfl, supply⟩
  | cons body rest ih =>
    -- There are as many buffers as bodies, so this body has one.
    obtain ⟨buffer, buffers, rfl⟩ := List.exists_cons_of_length_eq_add_one paired
    obtain ⟨now, later⟩ := whole
    obtain ⟨after, received, left, advance', _⟩ :=
      Rehearsal.receive_advancing supply advance (small body (List.mem_cons_self ..)) now buffer
    rw [received] at later
    obtain ⟨results, empty⟩ := ih buffers (Nat.succ.inj paired)
      (fun b member => small b (List.mem_cons_of_mem body member)) after advance' left later
    simp only [receiveEach, received, results, empty, List.zipWith_cons_cons, and_self]

/-- Every body arrives at the call of its number, cut to the buffer of that call, and nothing is
left over. -/
theorem receiveEach_sendEach (bodies buffers : List Bytes)
    (small : ∀ body ∈ bodies, body.length ≤ maxBody) (paired : buffers.length = bodies.length)
    (sender receiver : Rehearsal) (writes : sender.WritesAdvance) (reads : receiver.ReadsAdvance)
    (supply : receiver.supply =
      .stream ((sendEach bodies sender).2.accepted.drop sender.accepted.length))
    (whole : HeadersNext buffers receiver) :
    (sendEach bodies sender).1 = bodies.map (fun body => .ok body.length) ∧
    (receiveEach buffers receiver).1 = List.zipWith (fun body buffer =>
      ⟨.ok (min body.length buffer.length),
        body.take buffer.length ++ buffer.drop body.length⟩) bodies buffers ∧
    (receiveEach buffers receiver).2.supply = .stream [] := by
  obtain ⟨counts, accepted⟩ := sendEach_stream bodies small sender writes
  rw [accepted, List.drop_left] at supply
  exact ⟨counts, receiveEach_stream bodies buffers paired small receiver reads supply whole⟩

/-- Three bodies in small pieces: one is cut, one is empty, and one finds no room at all. -/
theorem receiveEach_sendEach_pieces :
    let cut : Turn := .fails (.io (.bare .interrupted))
    let sender : Rehearsal :=
      { supply := .stream [], writePlan := [cut, .upTo (some 1), cut, cut, .upTo (some 3)]
        writeLimit := some 2 }
    let receiver : Rehearsal :=
      { supply := .stream [5, 0, 1, 2, 3, 4, 5, 0, 0, 1, 0, 7]
        readPlan := [cut, .upTo none, .upTo (some 1), cut, .upTo (some 1), .upTo (some 1), cut] }
    (sendEach [[1, 2, 3, 4, 5], [], [7]] sender).1 = [.ok 5, .ok 0, .ok 1] ∧
    (receiveEach [[8, 8], [9], []] receiver).1 =
      [⟨.ok 2, [1, 2]⟩, ⟨.ok 0, [9]⟩, ⟨.ok 0, []⟩] ∧
    (receiveEach [[8, 8], [9], []] receiver).2.supply = .stream [] := by
  intro cut sender receiver
  exact receiveEach_sendEach [[1, 2, 3, 4, 5], [], [7]] [[8, 8], [9], []] (by decide) rfl
    sender receiver ⟨by decide, by decide⟩ ⟨by decide, by decide⟩ (by decide +kernel)
    ⟨by decide, by decide +kernel, by decide +kernel, trivial⟩

end BrickControl.Envelope
