import BrickControl.Proofs.Session.Refinement

/-!
# A brick at the other end

A brick hears requests and queues one packet for each that asks for an answer. What it answers is
any function of all that it heard. On a stream link it puts its requests together from pieces and
sends its packets in envelopes. The brick is a backend, so that a connection to it runs the same
code as one to a real link.
-/
namespace BrickControl

namespace Envelope

/-- The bodies of the whole envelopes at the front of a stream, and what is left. -/
def unwrap (bytes : Bytes) : List Bytes × Bytes :=
  if _ : headerSize ≤ bytes.length ∧
      headerSize + Bytes.value (bytes.take headerSize) ≤ bytes.length then
    let length := Bytes.value (bytes.take headerSize)
    let rest := unwrap (bytes.drop (headerSize + length))
    ((bytes.drop headerSize).take length :: rest.1, rest.2)
  else ([], bytes)
termination_by bytes.length
decreasing_by
  simp only [List.length_drop, headerSize] at *
  omega

private theorem unwrap_nil : unwrap [] = ([], []) := by
  rw [unwrap, dif_neg (by simp [headerSize])]

private theorem unwrap_wrap (body : Bytes) (small : body.length ≤ maxBody) :
    unwrap (wrap body) = ([body], []) := by
  have field : (wrap body).take headerSize = Bytes.littleEndian headerSize body.length := by
    simp [wrap]
  have behind : (wrap body).drop headerSize = body := by
    simp [wrap]
  -- The length field of an envelope announces its body, and this is all there is.
  rw [unwrap, field, value_header body small, dif_pos (by rw [length_wrap]; omega), behind]
  dsimp only
  rw [List.drop_of_length_le (Nat.le_of_eq (length_wrap body)), unwrap_nil, List.take_length]

/-- An envelope of which bytes are missing holds no body yet. -/
theorem unwrap_of_short {body begun missing : Bytes} (small : body.length ≤ maxBody)
    (parts : begun ++ missing = wrap body) (more : missing ≠ []) :
    unwrap begun = ([], begun) := by
  have size : begun.length + missing.length = headerSize + body.length := by
    rw [← List.length_append, parts, length_wrap]
  have positive := List.length_pos_iff.mpr more
  rw [unwrap, dif_neg]
  -- A whole length field would announce more bytes than have come.
  rintro ⟨header, whole⟩
  have field : begun.take headerSize = Bytes.littleEndian headerSize body.length := by
    rw [← List.take_append_of_le_length header, parts]
    simp [wrap]
  rw [field, value_header body small] at whole
  omega

end Envelope

/-- A brick and the link to it. -/
structure Brick where
  link : Rehearsal
  framing : Framing
  /-- The packet for the last of the requests heard so far. -/
  answer : List Bytes → Bytes
  /-- The requests heard so far. -/
  heard : List Bytes := []
  /-- The part of a request that came so far. -/
  begun : Bytes := []

def Framing.carry : Framing → Bytes → Bytes
  | .message, packet => packet
  | .stream, packet => Envelope.wrap packet

namespace Brick

/-- A request with the control byte for it asks for an answer. -/
def asks (request : Bytes) : Bool := request.head? = some ReplyMode.expected.byte

/-- The brick hears a request and queues the packet that answers it. -/
def hear (brick : Brick) (request : Bytes) : Brick :=
  let heard := brick.heard ++ [request]
  { brick with
    heard
    link := if asks request then brick.link.push (brick.framing.carry (brick.answer heard))
      else brick.link }

/-- The brick takes what came over the link. -/
def absorb (brick : Brick) (data : Bytes) : Brick :=
  match brick.framing with
  | .message => brick.hear data
  | .stream =>
    let (requests, begun) := Envelope.unwrap (brick.begun ++ data)
    requests.foldl hear { brick with begun }

instance : Backend Brick where
  name brick := Backend.name brick.link
  read room := fun brick =>
    match Backend.read room brick.link with
    | (delivery, link) => (delivery, { brick with link })
  write data := fun brick =>
    match Backend.write data brick.link with
    | (.ok count, link) => (.ok count, { brick with link }.absorb (data.take count))
    | (.error e, link) => (.error e, { brick with link })
  close := fun brick =>
    match Backend.close brick.link with
    | (outcome, link) => (outcome, { brick with link })
  patience brick := Backend.patience brick.link

private theorem readOnce_link (buffer : Bytes) (brick : Brick) :
    Backend.readOnce buffer brick =
      ((Backend.readOnce buffer brick.link).1,
        { brick with link := (Backend.readOnce buffer brick.link).2 }) := rfl

private theorem readAgain_link (patience : Nat) (buffer : Bytes) (brick : Brick) :
    Backend.readAgain patience buffer brick =
      ((Backend.readAgain patience buffer brick.link).1,
        { brick with link := (Backend.readAgain patience buffer brick.link).2 }) := by
  -- By induction on the patience, for an interrupted read leaves a link that is read again.
  induction patience generalizing buffer brick with
  | zero => rfl
  | succ patience ih =>
    simp only [Backend.readAgain, readOnce_link]
    obtain ⟨⟨outcome, held⟩, after⟩ := Backend.readOnce buffer brick.link
    cases outcome with
    | ok n => rfl
    | error e =>
      dsimp only
      split
      · exact ih held { brick with link := after }
      · rfl

private theorem steadyRead_link (buffer : Bytes) (brick : Brick) :
    Backend.steadyRead buffer brick =
      ((Backend.steadyRead buffer brick.link).1,
        { brick with link := (Backend.steadyRead buffer brick.link).2 }) :=
  readAgain_link _ buffer brick

theorem write_link (data : Bytes) (brick : Brick) :
    Backend.write data brick =
      match Backend.write data brick.link with
      | (.ok count, link) => (.ok count, { brick with link }.absorb (data.take count))
      | (.error e, link) => (.error e, { brick with link }) := rfl

theorem write_link_ok {data : Bytes} {brick : Brick} {link : Rehearsal} {count : Nat}
    (wrote : Backend.write data brick.link = (.ok count, link)) :
    Backend.write data brick = (.ok count, { brick with link }.absorb (data.take count)) := by
  rw [write_link, wrote]

private theorem write_link_error {data : Bytes} {brick : Brick} {link : Rehearsal}
    {e : TransportError} (failed : Backend.write data brick.link = (.error e, link)) :
    Backend.write data brick = (.error e, { brick with link }) := by
  rw [write_link, failed]

private theorem writeAgain_link {data : Bytes} {brick : Brick} {link : Rehearsal} {count : Nat}
    (patience : Nat) (wrote : Backend.writeAgain patience data brick.link = (.ok count, link)) :
    Backend.writeAgain patience data brick =
      (.ok count, { brick with link }.absorb (data.take count)) := by
  induction patience generalizing brick with
  | zero => exact write_link_ok wrote
  | succ patience ih =>
    simp only [Backend.writeAgain] at wrote ⊢
    cases once : Backend.write data brick.link with
    | mk outcome after =>
      rw [once] at wrote
      cases outcome with
      | ok n =>
        cases wrote
        rw [write_link_ok once]
      | error e =>
        rw [write_link_error once]
        dsimp only at wrote ⊢
        -- An interrupted write takes nothing, so the brick is told nothing by it.
        split at wrote
        next interrupted => rw [if_pos interrupted, ih wrote]
        next => cases wrote

/-- Interrupted writes tell the brick nothing, so what the link took in the end is told once. -/
private theorem steadyWrite_link {data : Bytes} {brick : Brick} {link : Rehearsal} {count : Nat}
    (wrote : Backend.steadyWrite data brick.link = (.ok count, link)) :
    Backend.steadyWrite data brick =
      (.ok count, { brick with link }.absorb (data.take count)) :=
  writeAgain_link _ wrote

/-! ### Telling the brick a request -/

/-- The packets that the brick queues for a request. -/
def replies (brick : Brick) (request : Bytes) : List Bytes :=
  if asks request then [brick.answer (brick.heard ++ [request])] else []

/-- The link carries these packets, in the way of its framing. -/
def Carries (brick : Brick) (queue : List Bytes) : Prop :=
  match brick.framing with
  | .message => brick.link.CarriesPackets queue
  | .stream => brick.link.CarriesEnvelopes queue

/-- No reply is pending, and no request is half told. -/
structure Idle (brick : Brick) : Prop where
  pending : brick.Carries []
  begun : brick.begun = []

/-- The brick heard one more request and queued what it answers. -/
structure Told (request : Bytes) (before after : Brick) : Prop where
  framing : after.framing = before.framing
  answer : after.answer = before.answer
  heard : after.heard = before.heard ++ [request]
  begun : after.begun = []
  queued : after.Carries (before.replies request)
  header : before.link.HeaderNext → after.link.HeaderNext

private theorem hear_carries {brick : Brick} (carries : brick.Carries []) (request : Bytes) :
    (brick.hear request).Carries (brick.replies request) := by
  cases wanted : asks request with
  | false => simpa only [Carries, hear, replies, wanted, Bool.false_eq_true, if_false] using carries
  | true =>
    cases framing : brick.framing with
    | message =>
      simp only [Carries, framing] at carries
      obtain ⟨supply, readPlan, writePlan, readLimit, writeLimit⟩ := carries
      simp only [Carries, hear, replies, framing, wanted, if_true]
      exact ⟨by simp [Rehearsal.push, supply, Supply.push, Framing.carry], readPlan, writePlan,
        readLimit, writeLimit⟩
    | stream =>
      simp only [Carries, framing] at carries
      obtain ⟨supply, reads, writes⟩ := carries
      simp only [Carries, hear, replies, framing, wanted, if_true]
      exact ⟨by simp [Rehearsal.push, supply, Supply.push, Framing.carry],
        ⟨reads.plan, reads.limit⟩, ⟨writes.plan, writes.limit⟩⟩

private theorem headerNext_hear (brick : Brick) (request : Bytes) :
    (brick.hear request).link.HeaderNext ↔ brick.link.HeaderNext := by
  cases wanted : asks request <;> simp [hear, wanted, Rehearsal.push, Rehearsal.HeaderNext]

/-- What the brick is after it heard a request, seen from what it was when the telling began. -/
theorem told_hear {before now : Brick} {request : Bytes} (framing : now.framing = before.framing)
    (answer : now.answer = before.answer) (heard : now.heard = before.heard)
    (begun : now.begun = []) (carries : now.Carries [])
    (header : before.link.HeaderNext → now.link.HeaderNext) :
    Told request before (now.hear request) where
  framing := framing
  answer := answer
  heard := by simp [hear, heard]
  begun := begun
  queued := by
    have same : now.replies request = before.replies request := by
      simp only [replies, answer, heard]
    exact same ▸ hear_carries carries request
  header := fun next => (headerNext_hear now request).mpr (header next)

/-- On a message link one write tells the request. -/
theorem write_told {brick : Brick} (framing : brick.framing = .message) (idle : brick.Idle)
    (request : Bytes) :
    ∃ told, Backend.write request brick = (.ok request.length, told) ∧ Told request brick told := by
  have carries := idle.pending
  simp only [Carries, framing] at carries
  obtain ⟨link, wrote, carries', _⟩ := Rehearsal.write_packets carries request
  refine ⟨_, write_link_ok wrote, ?_⟩
  rw [List.take_length, absorb, framing]
  refine told_hear framing.symm rfl rfl idle.begun ?_ ?_
  · simpa only [Carries, framing] using carries'
  · simp only [Rehearsal.HeaderNext, carries.readPlan, carries.readLimit, carries'.readPlan,
      carries'.readLimit, imp_self]

/-- A request is being told over a stream, or it was told. -/
def Telling (before : Brick) (request rest : Bytes) (now : Brick) : Prop :=
  if rest = [] then Told request before now
  else now.framing = before.framing ∧ now.answer = before.answer ∧ now.heard = before.heard ∧
    now.begun ++ rest = Envelope.wrap request ∧ now.link.CarriesEnvelopes [] ∧
    (before.link.HeaderNext → now.link.HeaderNext)

/-- Each piece of an envelope brings the telling of its request further, and the last one ends it.
-/
private theorem takes_telling {before : Brick} (framing : before.framing = .stream)
    (request : Bytes)
    (small : request.length ≤ Envelope.maxBody) : Envelope.Takes (Telling before request) := by
  intro rest now telling more
  rw [Telling, if_neg more] at telling
  obtain ⟨same, answer, heard, parts, carries, header⟩ := telling
  -- The link takes a piece, and only then does the brick look at what came.
  obtain ⟨n, link, positive, most, wrote, _, writes, frame⟩ :=
    Rehearsal.takes_stream now.link (now.link.accepted ++ rest) rest now.link
      ⟨rfl, carries.writes, .refl now.link⟩ more
  have carries' := carries.of_writes frame writes
  have header' := fun next => frame.headerNext (header next)
  refine ⟨n, _, positive, most, steadyWrite_link wrote, ?_⟩
  rw [absorb]
  simp only [same, framing]
  by_cases last : rest.drop n = []
  -- With the last piece the envelope is whole; before it the brick only keeps what came.
  · have all : rest.take n = rest := List.take_of_length_le (List.drop_eq_nil_iff.mp last)
    rw [Telling, if_pos last, all, parts, Envelope.unwrap_wrap request small]
    exact told_hear framing.symm answer heard rfl carries' header'
  · have split : (now.begun ++ rest.take n) ++ rest.drop n = Envelope.wrap request := by
      rw [List.append_assoc, List.take_append_drop, parts]
    rw [Telling, if_neg last, Envelope.unwrap_of_short small split last]
    exact ⟨framing.symm, answer, heard, split, carries', header'⟩

/-- On a stream link an envelope tells the request, in whatever pieces it goes. -/
theorem send_told {brick : Brick} (framing : brick.framing = .stream) (idle : brick.Idle)
    (request : Bytes) (small : request.length ≤ Envelope.maxBody) :
    ∃ told, Envelope.send request brick = (.ok request.length, told) ∧
      Told request brick told := by
  have carries := idle.pending
  simp only [Carries, framing] at carries
  have start : Telling brick request (Envelope.wrap request) brick := by
    rw [Telling, if_neg (Envelope.wrap_ne_nil request)]
    exact ⟨rfl, rfl, rfl, by rw [idle.begun, List.nil_append], carries, id⟩
  obtain ⟨told, sent, ended⟩ :=
    Envelope.send_of_takes (takes_telling framing request small) request small brick start
  exact ⟨told, sent, by rwa [Telling, if_pos rfl] at ended⟩

/-! ### Taking the answer -/

/-- The brick is idle again, and by now it has heard these requests. -/
structure Settled (heard : List Bytes) (before after : Brick) : Prop where
  framing : after.framing = before.framing
  answer : after.answer = before.answer
  heard : after.heard = heard
  idle : after.Idle

theorem readOnce_settled {brick : Brick} {packet : Bytes} (framing : brick.framing = .message)
    (begun : brick.begun = []) (carries : brick.Carries [packet]) (buffer : Bytes) :
    ∃ after, Backend.readOnce buffer brick =
        (⟨.ok (min packet.length buffer.length), Bytes.overlay packet buffer⟩, after) ∧
      Settled brick.heard brick after := by
  simp only [Carries, framing] at carries
  obtain ⟨link, got, carries', _⟩ := Rehearsal.readOnce_packets carries buffer
  refine ⟨{ brick with link }, ?_, rfl, rfl, rfl, ?_, begun⟩
  · rw [readOnce_link, got]
  · simpa only [Carries, framing] using carries'

/-- Receiving takes the one envelope off a stream link. -/
theorem receive_settled {brick : Brick} {packet : Bytes} (framing : brick.framing = .stream)
    (begun : brick.begun = []) (carries : brick.Carries [packet])
    (small : packet.length ≤ Envelope.maxBody) (next : brick.link.HeaderNext) (buffer : Bytes) :
    ∃ after, Envelope.receive buffer brick =
        (⟨.ok (min packet.length buffer.length), Bytes.overlay packet buffer⟩, after) ∧
      Settled brick.heard brick after := by
  simp only [Carries, framing] at carries
  obtain ⟨supply, reads, writes⟩ := carries
  rw [List.flatMap_cons, List.flatMap_nil] at supply
  -- The brick reads as its link does, and nothing but the link changes.
  have gives : Envelope.Gives fun bytes (now : Brick) =>
      ∃ link, now = { brick with link } ∧ link.supply = .stream bytes ∧ link.ReadsAdvance ∧
        Rehearsal.OnlyReads brick.link link := by
    rintro bytes buffer _ ⟨link, rfl, carries⟩ more enough
    obtain ⟨n, after, positive, most, got, kept⟩ :=
      Rehearsal.gives_stream brick.link bytes buffer link carries more enough
    exact ⟨n, { brick with link := after }, positive, most, by rw [steadyRead_link, got],
      after, rfl, kept⟩
  have whole : Envelope.HeaderWhole brick := by
    have header := Rehearsal.headerWhole_of_next supply
      (by rw [List.length_append, Envelope.length_wrap]; omega) next
    rw [Envelope.HeaderWhole] at header ⊢
    rw [steadyRead_link]
    exact header
  obtain ⟨_, received, link, rfl, left, reads', frame⟩ :=
    Envelope.receive_of_gives gives packet [] buffer small brick
      ⟨brick.link, rfl, supply, reads, .refl brick.link⟩ whole
  refine ⟨_, received, rfl, rfl, rfl, ?_, begun⟩
  simp only [Carries, framing]
  exact ⟨left, reads', frame.writePlan ▸ writes.plan, frame.writeLimit ▸ writes.limit⟩

end Brick
end BrickControl
