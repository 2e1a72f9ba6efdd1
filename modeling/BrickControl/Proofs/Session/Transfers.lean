import BrickControl.Backend.Rehearsal
import BrickControl.Proofs.Session.Fulfilled
import BrickControl.Proofs.Session.Slices

/-!
# What is left in a caller's buffer

Data of a reply goes to the front of the caller's buffer: as much of it as the brick reports, as the
reply carries, and as the buffer holds. Where the first is more than the other two the caller is
told so and still gets what fits. Behind what was copied the buffer is what it was, and after any
other failure it is what it was from its first byte on.
-/
namespace BrickControl

/-- A reply reported so many bytes and carried this data, and a buffer was to be filled from it. -/
structure Copied (reported : UInt8) (data buffer : Bytes) (ended : Filled CommandError) : Prop where
  ok_iff : ended.outcome = .ok reported.toNat ↔ reported.toNat ≤ min data.length buffer.length
  short : ¬reported.toNat ≤ min data.length buffer.length →
    ended.outcome = .error (.bufferTooSmall reported.toNat (min data.length buffer.length))
  buffer : ended.buffer =
    data.take (min reported.toNat (min data.length buffer.length)) ++
      buffer.drop (min reported.toNat (min data.length buffer.length))

private theorem Transfer.fill_copied (transfer : Transfer) (buffer : Bytes) :
    Copied transfer.length transfer.area buffer (transfer.fill buffer) where
  ok_iff := by
    simp only [fill]
    split
    next enough => simp [enough]
    next much => simp [much]
  short much := if_neg much
  buffer := by
    -- What is copied is bounded by the shortest of the three, in whatever order they are compared.
    have size : min buffer.length (min transfer.length.toNat transfer.area.length) =
        min transfer.length.toNat (min transfer.area.length buffer.length) := by
      omega
    simp only [fill, Bytes.overlay_min, List.length_take, List.take_take, size]
    rw [Nat.min_eq_left (Nat.min_le_left _ _)]

/-- Where a reply came, all that can be wrong with the copy is the room for it. -/
private theorem Copied.error {reported : UInt8} {data buffer : Bytes} {ended : Filled CommandError}
    (copied : Copied reported data buffer ended) {e : CommandError}
    (failed : ended.outcome = .error e) :
    ∃ needed available, e = .bufferTooSmall needed available := by
  by_cases enough : reported.toNat ≤ min data.length buffer.length
  · rw [copied.ok_iff.mpr enough] at failed
    cases failed
  · rw [copied.short enough] at failed
    cases failed
    exact ⟨_, _, rfl⟩

namespace Connection

variable {σ : Type} [Backend σ]

/-- The contract of a call that copies the data of a reply into `buffer`. In the payload of the
reply the length of the data stands at index `place`, and `capacity` bytes of data stand behind it;
the call takes the payload apart by `slices`, none of which is out of bounds. -/
structure FillsBuffer (query : Command) (place capacity : Nat)
    (slices : Bytes → Bytes → Option (Filled CommandError)) (buffer : Bytes)
    (start : Connection σ) (ended : Filled CommandError) : Prop where
  fulfilled : ∀ payload after, Fulfilled query payload start after →
    ∃ front reported data, payload = front ++ reported :: data ∧ front.length = place ∧
      data.length = capacity ∧ Copied reported data buffer ended ∧
      slices payload buffer = some ended
  unfulfilled : (∀ payload after, ¬Fulfilled query payload start after) →
    ∃ e, ended = ⟨.error e, buffer⟩ ∧ ∀ needed available, e ≠ .bufferTooSmall needed available
  kept : ∀ e, ended.outcome = .error e →
    (∀ needed available, e ≠ .bufferTooSmall needed available) → ended.buffer = buffer

variable {query : Command} {act : Act (Connection σ) CommandError Transfer} {buffer : Bytes}
  {start : Connection σ}

omit [Backend σ] in
theorem fillFrom_ok {transfer : Transfer} {after : Connection σ}
    (ended : act start = (.ok transfer, after)) :
    fillFrom act buffer start = (transfer.fill buffer, after) := by
  rw [fillFrom, ended]

omit [Backend σ] in
private theorem fillFrom_error {e : CommandError} {after : Connection σ}
    (ended : act start = (.error e, after)) :
    fillFrom act buffer start = (⟨.error e, buffer⟩, after) := by
  rw [fillFrom, ended]

/-- It is enough to know what a fulfilled query makes of its payload. -/
theorem fillsBuffer_of {place capacity : Nat}
    {slices : Bytes → Bytes → Option (Filled CommandError)}
    (either : (∃ payload after, Fulfilled query payload start after) ∨
      ∃ e after, act start = (.error e, after) ∧ e.ofPayload = false)
    (reads : ∀ payload after, Fulfilled query payload start after →
      ∃ front transfer, payload = front ++ transfer.length :: transfer.area ∧
        front.length = place ∧ transfer.area.length = capacity ∧
        act start = (.ok transfer, after) ∧ slices payload buffer = some (transfer.fill buffer)) :
    FillsBuffer query place capacity slices buffer start (fillFrom act buffer start).1 := by
  have fulfilled : ∀ payload after, Fulfilled query payload start after →
      ∃ front reported data, payload = front ++ reported :: data ∧ front.length = place ∧
        data.length = capacity ∧ Copied reported data buffer (fillFrom act buffer start).1 ∧
        slices payload buffer = some (fillFrom act buffer start).1 := by
    intro payload after done
    obtain ⟨front, transfer, parts, size, room, ended, sliced⟩ := reads payload after done
    rw [fillFrom_ok ended]
    exact ⟨front, transfer.length, transfer.area, parts, size, room, transfer.fill_copied buffer,
      sliced⟩
  have other {e : CommandError} (about : e.ofPayload = false) (needed available : Nat) :
      e ≠ .bufferTooSmall needed available := by
    rintro rfl
    cases about
  refine ⟨fulfilled, ?_, ?_⟩
  · -- Without a fulfilled query there is no data, so the buffer was not touched.
    intro never
    rcases either with ⟨payload, after, done⟩ | ⟨e, after, failed, about⟩
    · exact absurd done (never payload after)
    · exact ⟨e, by rw [fillFrom_error failed], other about⟩
  · intro e failed strange
    rcases either with ⟨payload, after, done⟩ | ⟨e', after, failed', _⟩
    · obtain ⟨_, _, _, _, _, _, copied, _⟩ := fulfilled payload after done
      obtain ⟨needed, available, same⟩ := copied.error failed
      exact absurd same (strange needed available)
    · rw [fillFrom_error failed']

/-- Both calls that copy data keep to one contract, each with the size of its replies, for every
connection, every reply and every buffer. The buffer for a mailbox message has the size of the
longest one. -/
theorem reads_fill_buffers (start : Connection σ) :
    (∀ port buffer, FillsBuffer (.lsRead port) 0 16 lowSpeedRead? buffer start
      (lowSpeedRead port buffer start).1) ∧
    (∀ remote inbox remove buffer, buffer.length = 59 →
      FillsBuffer (.messageRead remote inbox remove) 1 59 messageRead? buffer start
        (messageRead remote inbox remove buffer start).1) := by
  constructor
  · intro port buffer
    refine fillsBuffer_of (fulfilled_or_failed (by rintro ⟨⟩) rfl start) ?_
    intro payload after done
    have length : payload.length = 17 := done.length rfl
    match payload with
    | reported :: area =>
      refine ⟨[], ⟨reported, area⟩, rfl, rfl, by simpa using length, perform_fulfilled done, ?_⟩
      exact lowSpeedRead_fills reported area buffer
  · intro remote inbox remove buffer room
    refine fillsBuffer_of (fulfilled_or_failed (by rintro ⟨⟩) rfl start) ?_
    intro payload after done
    have length : payload.length = 61 := done.length rfl
    match payload with
    | box :: reported :: area =>
      have size : area.length = 59 := by simpa using length
      refine ⟨[box], ⟨reported, area⟩, rfl, rfl, size, perform_fulfilled done, ?_⟩
      exact messageRead_fills box reported size room

/-- The brick reports a message of 60 bytes, one more than a reply carries. -/
theorem reads_fill_buffers_crowded :
    let query : Command := .messageRead 12 2 true
    let payload : Bytes := 12 :: 60 :: List.replicate 59 7
    let start : Connection Rehearsal :=
      .overMessages { supply := .packets [0x02 :: 0x13 :: 0 :: payload] }
    let buffer : Bytes := List.replicate 59 1
    buffer.length = 59 ∧ Fulfilled query payload start (perform query start).2 ∧
    (messageRead 12 2 true buffer start).1 =
      ⟨.error (.bufferTooSmall 60 59), List.replicate 59 7⟩ := by
  intro query payload start buffer
  have done : Fulfilled query payload start (perform query start).2 :=
    ⟨rfl, 64, (write query.request start).2, rfl, rfl, rfl⟩
  -- What the buffer holds is not computed: the contract of the call gives it.
  have contract := (reads_fill_buffers start).2 12 2 true buffer rfl
  obtain ⟨front, reported, data, parts, single, size, copied, _⟩ :=
    contract.fulfilled payload _ done
  obtain ⟨box, rfl⟩ := List.length_eq_one_iff.mp single
  change 12 :: 60 :: List.replicate 59 7 = box :: reported :: data at parts
  cases parts
  refine ⟨rfl, done, ?_⟩
  have outcome := copied.short (by decide +kernel)
  have held := copied.buffer
  generalize (messageRead 12 2 true buffer start).1 = ended at outcome held ⊢
  obtain ⟨_, _⟩ := ended
  cases outcome
  cases held
  rfl

end Connection
end BrickControl
