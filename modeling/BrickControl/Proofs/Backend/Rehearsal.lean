import BrickControl.Backend.Rehearsal
import BrickControl.Proofs.Envelope.Loops

/-!
# Steady calls on a rehearsed backend

A steady call makes the turns of the plan up to the first one that is no interruption. So it is one
call in the state past the interruptions, and a plan whose turns are interruptions and transfers of
at least a byte moves a stream forward at every steady call.
-/
namespace BrickControl

/-- The turn is a failure that a steady call hides. -/
def Turn.interrupts : Turn → Bool
  | .fails e => e.isInterruption
  | _ => false

/-- The turn is an interruption or a transfer of at least one byte. -/
def Turn.advances : Turn → Bool
  | .upTo limit => limit ≠ some 0
  | .claims _ => false
  | .fails e => e.isInterruption

def Turn.givesHeader : Turn → Bool
  | .upTo limit => Envelope.headerSize ≤ Rehearsal.within limit Envelope.headerSize
  | _ => false

/-- What a backend took in a call, by its own report. -/
def RehearsedCall.taken : RehearsedCall → Bytes
  | .write data (some count) => data.take count
  | _ => []

def RehearsedCall.offered? : RehearsedCall → Option Bytes
  | .write data _ => some data
  | _ => none

namespace Backend

variable {σ : Type} [Backend σ]

private theorem readAgain_of_settled {patience : Nat} {buffer : Bytes} {state : σ}
    (settled : ∀ e, (readOnce buffer state).1.outcome = .error e → e.isInterruption = false) :
    readAgain patience buffer state = readOnce buffer state := by
  cases patience with
  | zero => rfl
  | succ patience =>
    rw [readAgain]
    split
    next equal => exact equal.symm
    next e held after equal =>
      rw [equal] at settled
      rw [settled e rfl, equal]
      rfl

private theorem writeAgain_of_settled {patience : Nat} {data : Bytes} {state : σ}
    (settled : ∀ e, (write data state).1 = .error e → e.isInterruption = false) :
    writeAgain patience data state = write data state := by
  cases patience with
  | zero => rfl
  | succ patience =>
    simp only [writeAgain]
    split
    next equal => exact equal.symm
    next e after equal =>
      rw [equal] at settled
      rw [settled e rfl, equal]
      rfl

end Backend

namespace Rehearsal

/-- All bytes that the backend took, in their order. -/
def accepted (rehearsal : Rehearsal) : Bytes := rehearsal.calls.flatMap RehearsedCall.taken

/-- All that was offered to the backend, call by call. -/
def offered (rehearsal : Rehearsal) : List Bytes :=
  rehearsal.calls.filterMap RehearsedCall.offered?

/-- The backend after the interruptions at the front of its read plan. -/
def pastReadInterruptions (room : Nat) (rehearsal : Rehearsal) : Rehearsal :=
  { rehearsal with
    readPlan := rehearsal.readPlan.dropWhile Turn.interrupts
    made := List.replicate (rehearsal.readPlan.takeWhile Turn.interrupts).length (.read room none)
      ++ rehearsal.made }

def pastWriteInterruptions (data : Bytes) (rehearsal : Rehearsal) : Rehearsal :=
  { rehearsal with
    writePlan := rehearsal.writePlan.dropWhile Turn.interrupts
    made := List.replicate (rehearsal.writePlan.takeWhile Turn.interrupts).length (.write data none)
      ++ rehearsal.made }

theorem readOnce_fails (buffer : Bytes) (rehearsal : Rehearsal) (e : TransportError)
    (rest : List Turn) (plan : rehearsal.readPlan = .fails e :: rest) :
    Backend.readOnce buffer rehearsal =
      (⟨.error e, buffer⟩,
        { rehearsal with
          readPlan := rest, made := .read buffer.length none :: rehearsal.made }) := by
  simp [Backend.readOnce, Backend.read, turn, plan]

theorem write_fails (data : Bytes) (rehearsal : Rehearsal) (e : TransportError)
    (rest : List Turn) (plan : rehearsal.writePlan = .fails e :: rest) :
    Backend.write data rehearsal =
      (.error e,
        { rehearsal with writePlan := rest, made := .write data none :: rehearsal.made }) := by
  simp [Backend.write, turn, plan]

theorem dropWhile_eq_self {plan : List Turn} (none : plan.takeWhile Turn.interrupts = []) :
    plan.dropWhile Turn.interrupts = plan := by
  have whole := List.takeWhile_append_dropWhile (p := Turn.interrupts) (l := plan)
  rwa [none, List.nil_append] at whole

private theorem pastReadInterruptions_of_none {room : Nat} {rehearsal : Rehearsal}
    (none : rehearsal.readPlan.takeWhile Turn.interrupts = []) :
    rehearsal.pastReadInterruptions room = rehearsal := by
  simp only [pastReadInterruptions, none, dropWhile_eq_self none, List.length_nil,
    List.replicate_zero, List.nil_append]

private theorem pastReadInterruptions_fails {room : Nat} {rehearsal : Rehearsal}
    {e : TransportError}
    {rest : List Turn} (plan : rehearsal.readPlan = .fails e :: rest) (again : e.isInterruption) :
    rehearsal.pastReadInterruptions room =
      { rehearsal with
        readPlan := rest
        made := .read room none :: rehearsal.made }.pastReadInterruptions room := by
  simp [pastReadInterruptions, plan, Turn.interrupts, again, List.replicate_succ']

/-- The next read is interrupted, or there are no interruptions in front of the plan and the read
ends in none. -/
theorem read_interrupted_or_settled (buffer : Bytes) (rehearsal : Rehearsal) :
    (∃ e rest, rehearsal.readPlan = .fails e :: rest ∧ e.isInterruption) ∨
    (rehearsal.readPlan.takeWhile Turn.interrupts = [] ∧
      ∀ e, (Backend.readOnce buffer rehearsal).1.outcome = .error e →
        e.isInterruption = false) := by
  cases plan : rehearsal.readPlan with
  | nil => simp [Backend.readOnce, Backend.read, turn, plan]
  | cons first rest =>
    cases first with
    | upTo limit => simp [Backend.readOnce, Backend.read, turn, plan, Turn.interrupts]
    | claims count => simp [Backend.readOnce, Backend.read, turn, plan, Turn.interrupts]
    | fails e =>
      cases again : e.isInterruption with
      | true => exact .inl ⟨e, rest, rfl, again⟩
      | false => simp [readOnce_fails buffer rehearsal e rest plan, Turn.interrupts, again]

private theorem readAgain_eq (patience : Nat) (buffer : Bytes) (rehearsal : Rehearsal)
    (patient : (rehearsal.readPlan.takeWhile Turn.interrupts).length ≤ patience) :
    Backend.readAgain patience buffer rehearsal =
      Backend.readOnce buffer (rehearsal.pastReadInterruptions buffer.length) := by
  induction patience generalizing rehearsal with
  | zero =>
    -- Patience covers all interruptions, so without any there are none.
    rw [pastReadInterruptions_of_none (List.eq_nil_of_length_eq_zero (by omega))]
    rfl
  | succ patience ih =>
    rcases read_interrupted_or_settled buffer rehearsal with
      ⟨e, rest, plan, again⟩ | ⟨none, settled⟩
    -- The read uses up one turn and one of the calls that patience allows.
    · simp only [plan, List.takeWhile_cons, Turn.interrupts, again, if_true, List.length_cons]
        at patient
      rw [pastReadInterruptions_fails plan again, ← ih _ (by exact Nat.le_of_succ_le_succ patient),
        Backend.readAgain, readOnce_fails buffer rehearsal e rest plan]
      simp only [again, if_true]
    · rw [pastReadInterruptions_of_none none, Backend.readAgain_of_settled settled]

/-- A steady read is one read past the interruptions. -/
theorem steadyRead_eq (buffer : Bytes) (rehearsal : Rehearsal) :
    Backend.steadyRead buffer rehearsal =
      Backend.readOnce buffer (rehearsal.pastReadInterruptions buffer.length) := by
  -- No plan has more interruptions than turns, and patience covers all turns.
  apply readAgain_eq
  have shorter := (List.takeWhile_sublist Turn.interrupts (l := rehearsal.readPlan)).length_le
  have patience : Backend.patience rehearsal =
    max rehearsal.readPlan.length rehearsal.writePlan.length := rfl
  omega

private theorem pastWriteInterruptions_of_none {data : Bytes} {rehearsal : Rehearsal}
    (none : rehearsal.writePlan.takeWhile Turn.interrupts = []) :
    rehearsal.pastWriteInterruptions data = rehearsal := by
  simp only [pastWriteInterruptions, none, dropWhile_eq_self none, List.length_nil,
    List.replicate_zero, List.nil_append]

private theorem pastWriteInterruptions_fails {data : Bytes} {rehearsal : Rehearsal}
    {e : TransportError}
    {rest : List Turn} (plan : rehearsal.writePlan = .fails e :: rest) (again : e.isInterruption) :
    rehearsal.pastWriteInterruptions data =
      { rehearsal with
        writePlan := rest
        made := .write data none :: rehearsal.made }.pastWriteInterruptions data := by
  simp [pastWriteInterruptions, plan, Turn.interrupts, again, List.replicate_succ']

theorem write_interrupted_or_settled (data : Bytes) (rehearsal : Rehearsal) :
    (∃ e rest, rehearsal.writePlan = .fails e :: rest ∧ e.isInterruption) ∨
    (rehearsal.writePlan.takeWhile Turn.interrupts = [] ∧
      ∀ e, (Backend.write data rehearsal).1 = .error e → e.isInterruption = false) := by
  cases plan : rehearsal.writePlan with
  | nil => simp [Backend.write, turn, plan]
  | cons first rest =>
    cases first with
    | upTo limit => simp [Backend.write, turn, plan, Turn.interrupts]
    | claims count => simp [Backend.write, turn, plan, Turn.interrupts]
    | fails e =>
      cases again : e.isInterruption with
      | true => exact .inl ⟨e, rest, rfl, again⟩
      | false => simp [write_fails data rehearsal e rest plan, Turn.interrupts, again]

private theorem writeAgain_eq (patience : Nat) (data : Bytes) (rehearsal : Rehearsal)
    (patient : (rehearsal.writePlan.takeWhile Turn.interrupts).length ≤ patience) :
    Backend.writeAgain patience data rehearsal =
      Backend.write data (rehearsal.pastWriteInterruptions data) := by
  induction patience generalizing rehearsal with
  | zero =>
    rw [pastWriteInterruptions_of_none (List.eq_nil_of_length_eq_zero (by omega))]
    rfl
  | succ patience ih =>
    rcases write_interrupted_or_settled data rehearsal with
      ⟨e, rest, plan, again⟩ | ⟨none, settled⟩
    · simp only [plan, List.takeWhile_cons, Turn.interrupts, again, if_true, List.length_cons]
        at patient
      -- Making the call again is as good as leaving out the first interruption.
      rw [pastWriteInterruptions_fails plan again,
        ← ih _ (by exact Nat.le_of_succ_le_succ patient)]
      simp only [Backend.writeAgain, write_fails data rehearsal e rest plan, again, if_true]
    · rw [pastWriteInterruptions_of_none none, Backend.writeAgain_of_settled settled]

/-- A steady write is one write past the interruptions. -/
theorem steadyWrite_eq (data : Bytes) (rehearsal : Rehearsal) :
    Backend.steadyWrite data rehearsal =
      Backend.write data (rehearsal.pastWriteInterruptions data) := by
  apply writeAgain_eq
  have shorter := (List.takeWhile_sublist Turn.interrupts (l := rehearsal.writePlan)).length_le
  have patience : Backend.patience rehearsal =
    max rehearsal.readPlan.length rehearsal.writePlan.length := rfl
  omega

/-! ### Streams that move forward -/

theorem within_pos {limit : Option Nat} {size : Nat} (some : limit ≠ some 0) (more : 0 < size) :
    0 < within limit size := by
  cases limit with
  | none => exact more
  | some k =>
    have : k ≠ 0 := fun zero => some (by rw [zero])
    simp only [within]
    omega

theorem within_le (limit : Option Nat) (size : Nat) : within limit size ≤ size := by
  cases limit with
  | none => exact Nat.le_refl _
  | some k => exact Nat.min_le_right ..

/-- Each read is interrupted or gives at least one byte, as long as there is one. -/
structure ReadsAdvance (rehearsal : Rehearsal) : Prop where
  plan : ∀ turn ∈ rehearsal.readPlan, turn.advances
  limit : rehearsal.readLimit ≠ some 0

/-- Each write is interrupted or takes at least one byte. -/
structure WritesAdvance (rehearsal : Rehearsal) : Prop where
  plan : ∀ turn ∈ rehearsal.writePlan, turn.advances
  limit : rehearsal.writeLimit ≠ some 0

/-- The next read that is not interrupted gives a length field whole. -/
def HeaderNext (rehearsal : Rehearsal) : Prop :=
  (turn (rehearsal.readPlan.dropWhile Turn.interrupts) rehearsal.readLimit).1.givesHeader

instance (rehearsal : Rehearsal) : Decidable rehearsal.HeaderNext :=
  inferInstanceAs (Decidable (_ = true))

/-- Past the interruptions a plan that advances has a turn that lets bytes by, and still advances
behind it. -/
theorem turn_of_advances {plan : List Turn} {limit : Option Nat}
    (advance : ∀ turn ∈ plan, turn.advances) (some : limit ≠ some 0) :
    ∃ next rest, turn (plan.dropWhile Turn.interrupts) limit = (.upTo next, rest) ∧
      next ≠ Option.some 0 ∧ ∀ turn ∈ rest, turn.advances := by
  induction plan with
  | nil => exact ⟨limit, [], rfl, some, by simp⟩
  | cons first rest ih =>
    have now := advance first (List.mem_cons_self ..)
    have later := fun turn member => advance turn (List.mem_cons_of_mem first member)
    cases first with
    | upTo next =>
      refine ⟨next, rest, by simp [Turn.interrupts, turn], ?_, later⟩
      simpa [Turn.advances] using now
    | claims count => simp [Turn.advances] at now
    | fails e =>
      -- A failure that advances is an interruption, so it does not end the search.
      have again : Turn.interrupts (.fails e) = true := now
      rw [List.dropWhile_cons_of_pos again]
      exact ih later

/-! ### What a call leaves alone -/

/-- Between the two states there were reads and nothing else. -/
structure OnlyReads (before after : Rehearsal) : Prop where
  writePlan : after.writePlan = before.writePlan
  writeLimit : after.writeLimit = before.writeLimit
  readLimit : after.readLimit = before.readLimit
  accepted : after.accepted = before.accepted

/-- Between the two states there were writes and nothing else. -/
structure OnlyWrites (before after : Rehearsal) : Prop where
  supply : after.supply = before.supply
  readPlan : after.readPlan = before.readPlan
  readLimit : after.readLimit = before.readLimit
  writeLimit : after.writeLimit = before.writeLimit

theorem OnlyReads.refl (rehearsal : Rehearsal) : OnlyReads rehearsal rehearsal :=
  ⟨rfl, rfl, rfl, rfl⟩

theorem OnlyWrites.refl (rehearsal : Rehearsal) : OnlyWrites rehearsal rehearsal :=
  ⟨rfl, rfl, rfl, rfl⟩

/-! ### One steady call on a stream that moves forward -/

theorem taken_replicate (count : Nat) (call : RehearsedCall) (nothing : call.taken = []) :
    (List.replicate count call).flatMap RehearsedCall.taken = [] := by
  rw [List.flatMap_replicate, nothing, List.flatten_replicate_nil]

/-- A steady read of a stream takes the first bytes off it, as many as the next turn lets by. -/
theorem steadyRead_stream {rehearsal : Rehearsal} {bytes : Bytes} {limit : Option Nat}
    {rest : List Turn} (supply : rehearsal.supply = .stream bytes)
    (next : turn (rehearsal.readPlan.dropWhile Turn.interrupts) rehearsal.readLimit =
      (.upTo limit, rest))
    (buffer : Bytes) (enough : buffer.length ≤ bytes.length) :
    ∃ after, Backend.steadyRead buffer rehearsal =
        (⟨.ok (within limit buffer.length),
          Bytes.overlay (bytes.take (within limit buffer.length)) buffer⟩, after) ∧
      after.supply = .stream (bytes.drop (within limit buffer.length)) ∧
      after.readPlan = rest ∧ OnlyReads rehearsal after := by
  have most := within_le limit buffer.length
  have count : (bytes.take (within limit buffer.length)).length = within limit buffer.length := by
    rw [List.length_take]
    omega
  rw [steadyRead_eq]
  simp only [Backend.readOnce, Backend.read, pastReadInterruptions, next, supply, Supply.take,
    count]
  refine ⟨_, rfl, rfl, rfl, rfl, rfl, rfl, ?_⟩
  simp only [accepted, calls, List.reverse_cons, List.reverse_append, List.reverse_replicate,
    List.flatMap_append, List.flatMap_singleton, RehearsedCall.taken,
    taken_replicate _ (.read buffer.length none) rfl, List.append_nil]

private theorem steadyWrite_stream {rehearsal : Rehearsal} {limit : Option Nat} {rest : List Turn}
    (next : turn (rehearsal.writePlan.dropWhile Turn.interrupts) rehearsal.writeLimit =
      (.upTo limit, rest)) (data : Bytes) :
    ∃ after, Backend.steadyWrite data rehearsal = (.ok (within limit data.length), after) ∧
      after.accepted = rehearsal.accepted ++ data.take (within limit data.length) ∧
      after.writePlan = rest ∧ OnlyWrites rehearsal after := by
  rw [steadyWrite_eq]
  simp only [Backend.write, pastWriteInterruptions, next]
  refine ⟨_, rfl, ?_, rfl, rfl, rfl, rfl, rfl⟩
  simp only [accepted, calls, List.reverse_cons, List.reverse_append, List.reverse_replicate,
    List.flatMap_append, List.flatMap_singleton, RehearsedCall.taken,
    taken_replicate _ (.write data none) rfl, List.append_nil]

/-- A stream that advances gives its bytes in order. -/
theorem gives_stream (start : Rehearsal) :
    Envelope.Gives fun bytes rehearsal =>
      rehearsal.supply = .stream bytes ∧ rehearsal.ReadsAdvance ∧ OnlyReads start rehearsal := by
  rintro bytes buffer rehearsal ⟨supply, ⟨plan, limit⟩, frame⟩ more enough
  obtain ⟨next, rest, now, some, later⟩ := turn_of_advances plan limit
  -- The first turn that is no interruption lets at least one byte by.
  obtain ⟨after, read, left, planned, frame'⟩ := steadyRead_stream supply now buffer enough
  refine ⟨within next buffer.length, after, within_pos some (List.length_pos_iff.mpr more),
    within_le .., read, left, ⟨planned ▸ later, frame'.readLimit ▸ limit⟩, ?_⟩
  exact ⟨frame'.writePlan.trans frame.writePlan, frame'.writeLimit.trans frame.writeLimit,
    frame'.readLimit.trans frame.readLimit, frame'.accepted.trans frame.accepted⟩

/-- A stream that advances takes the bytes in order. -/
theorem takes_stream (start : Rehearsal) (wire : Bytes) :
    Envelope.Takes fun rest rehearsal =>
      rehearsal.accepted ++ rest = wire ∧ rehearsal.WritesAdvance ∧ OnlyWrites start rehearsal := by
  rintro data rehearsal ⟨taken, ⟨plan, limit⟩, frame⟩ more
  obtain ⟨next, rest, now, some, later⟩ := turn_of_advances plan limit
  obtain ⟨after, wrote, accepted, planned, frame'⟩ := steadyWrite_stream now data
  refine ⟨within next data.length, after, within_pos some (List.length_pos_iff.mpr more),
    within_le .., wrote, ?_, ⟨planned ▸ later, frame'.writeLimit ▸ limit⟩, ?_⟩
  · rw [accepted, List.append_assoc, List.take_append_drop, taken]
  · exact ⟨frame'.supply.trans frame.supply, frame'.readPlan.trans frame.readPlan,
      frame'.readLimit.trans frame.readLimit, frame'.writeLimit.trans frame.writeLimit⟩

/-- A stream that holds a length field gives it whole where its next turn may do so. -/
theorem headerWhole_of_next {rehearsal : Rehearsal} {bytes : Bytes}
    (supply : rehearsal.supply = .stream bytes) (enough : Envelope.headerSize ≤ bytes.length)
    (next : rehearsal.HeaderNext) : Envelope.HeaderWhole rehearsal := by
  rw [HeaderNext] at next
  cases now : (turn (rehearsal.readPlan.dropWhile Turn.interrupts) rehearsal.readLimit).1 with
  | upTo limit =>
    -- There is room for both bytes and both are there, so the count can only be two.
    obtain ⟨after, read, _⟩ := steadyRead_stream supply (Prod.ext now rfl)
      (List.replicate Envelope.headerSize 0) (by simpa using enough)
    have room : Envelope.headerSize ≤ within limit Envelope.headerSize := by
      simpa [now, Turn.givesHeader] using next
    rw [Envelope.HeaderWhole, read, List.length_replicate]
    exact congrArg Except.ok (Nat.le_antisymm (within_le ..) room)
  | claims count => simp [now, Turn.givesHeader] at next
  | fails e => simp [now, Turn.givesHeader] at next

/-! ### One envelope on a stream that moves forward -/

/-- One envelope goes out whole, behind what was accepted before it. -/
theorem send_advancing {rehearsal : Rehearsal} (writes : rehearsal.WritesAdvance) (body : Bytes)
    (small : body.length ≤ Envelope.maxBody) :
    ∃ after, Envelope.send body rehearsal = (.ok body.length, after) ∧
      after.accepted = rehearsal.accepted ++ Envelope.wrap body ∧ after.WritesAdvance ∧
      OnlyWrites rehearsal after := by
  obtain ⟨after, sent, taken, writes', frame⟩ :=
    Envelope.send_of_takes (takes_stream rehearsal (rehearsal.accepted ++ Envelope.wrap body))
      body small rehearsal ⟨rfl, writes, .refl rehearsal⟩
  -- Nothing of the envelope is left to send.
  rw [List.append_nil] at taken
  exact ⟨after, sent, taken, writes', frame⟩

/-- One envelope is taken off the stream whole; its body goes into the buffer as far as there is
room. -/
theorem receive_advancing {rehearsal : Rehearsal} {body rest : Bytes}
    (supply : rehearsal.supply = .stream (Envelope.wrap body ++ rest))
    (reads : rehearsal.ReadsAdvance) (small : body.length ≤ Envelope.maxBody)
    (next : rehearsal.HeaderNext) (buffer : Bytes) :
    ∃ after, Envelope.receive buffer rehearsal =
        (⟨.ok (min body.length buffer.length), Bytes.overlay body buffer⟩, after) ∧
      after.supply = .stream rest ∧ after.ReadsAdvance ∧ OnlyReads rehearsal after := by
  have whole : Envelope.HeaderWhole rehearsal := headerWhole_of_next supply
    (by rw [List.length_append, Envelope.length_wrap]; omega) next
  exact Envelope.receive_of_gives (gives_stream rehearsal) body rest buffer small rehearsal
    ⟨supply, reads, .refl rehearsal⟩ whole

end Rehearsal
end BrickControl
