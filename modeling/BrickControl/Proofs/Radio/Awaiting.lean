import BrickControl.Proofs.Act
import BrickControl.Proofs.Radio.Events

/-!
# The wait for a name

A request for a name is settled by the first answer that decides it. The answers before that one are
passed over, the ones behind it are not read, and the host refuses a read when no more of them are
in store. Whether the packets are looked at one by one or in a buffer that is used again makes no
difference, nor does any answer in between that decides nothing.
-/
namespace BrickControl.Radio.Adapter

/-- How a request ends with these answers in store, and which of them are left. -/
def settle (peer : Address) :
    List (Except Errno Bytes) → Except IoError String × List (Except Errno Bytes)
  | [] => (.error (.described .timedOut "remote name request timed out"), [])
  | answer :: later =>
    match decides? peer answer with
    | some outcome => (outcome, later)
    | none => settle peer later

section

variable {peer : Address} {answer : Except Errno Bytes} {later : List (Except Errno Bytes)}

theorem settle_decided {outcome : Except IoError String}
    (decided : decides? peer answer = some outcome) :
    settle peer (answer :: later) = (outcome, later) := by
  rw [settle, decided]

theorem settle_undecided (undecided : decides? peer answer = none) :
    settle peer (answer :: later) = settle peer later := by
  rw [settle, undecided]

theorem decides?_none_iff :
    decides? peer answer = none ↔ ∀ outcome, ¬Decides peer answer outcome := by
  simp only [Option.eq_none_iff_forall_ne_some, ne_eq, decides?_iff]

private theorem verdict?_take (packet : Bytes) :
    verdict? peer (packet.take packetRoom) = verdict? peer packet := by
  simp only [verdict?, event?_take]

end

/-! ### The buffer -/

/-- The next event is in the buffer with its parameters, or there is none before the end. -/
inductive NextEvent (peer : Address) (answers : List (Except Errno Bytes)) :
    Except IoError Found × List (Except Errno Bytes) → Prop where
  | event {packet parameters : Bytes} {found : Found} {later : List (Except Errno Bytes)}
      (event : IsEvent packet found.code parameters) (room : found.buffer.length = packetRoom)
      (slice : found.buffer.slice? 3 (3 + found.size) = some parameters)
      (settled : settle peer answers = settle peer (.ok packet :: later)) :
      NextEvent peer answers (.ok found, later)
  | ended {e : IoError} {later : List (Except Errno Bytes)}
      (settled : settle peer answers = (.error e, later)) : NextEvent peer answers (.error e, later)

private theorem NextEvent.cons {peer : Address} {answer : Except Errno Bytes}
    {answers : List (Except Errno Bytes)}
    {result : Except IoError Found × List (Except Errno Bytes)}
    (undecided : decides? peer answer = none) (next : NextEvent peer answers result) :
    NextEvent peer (answer :: answers) result := by
  cases next with
  | event event room slice settled =>
    exact .event event room slice ((settle_undecided undecided).trans settled)
  | ended settled => exact .ended ((settle_undecided undecided).trans settled)

/-- Reading into a buffer always comes to a result: no index is out of bounds. -/
private theorem nextEvent?_next (peer : Address) (answers : List (Except Errno Bytes))
    {buffer : Bytes} (room : buffer.length = packetRoom) :
    ∃ result, nextEvent? buffer answers = some result ∧ NextEvent peer answers result := by
  induction answers generalizing buffer with
  | nil => exact ⟨_, rfl, .ended rfl⟩
  | cons answer later ih =>
    -- What is passed over leaves its bytes in the buffer, which only has to keep its size.
    cases answer with
    | error e =>
      rw [nextEvent?]
      split
      next again =>
        obtain ⟨result, next, is⟩ := ih room
        exact ⟨result, next, is.cons (decides?_interrupted again)⟩
      next silent => exact ⟨_, rfl, .ended (settle_decided (decides?_silent silent))⟩
      next again silent => exact ⟨_, rfl, .ended (settle_decided (decides?_failed again silent))⟩
    | ok packet =>
      cases found : event? packet with
      | none =>
        obtain ⟨result, next, is⟩ := ih ((Bytes.length_overlay packet buffer).trans room)
        exact ⟨result, (nextEvent?_foreign later found room).trans next,
          is.cons (verdict?_foreign found)⟩
      | some both =>
        obtain ⟨code, parameters⟩ := both
        have event := event?_iff.mp found
        obtain ⟨held, next, rfl, size, slice⟩ := nextEvent?_event later event room
        exact ⟨_, next, .event event size slice rfl⟩

/-- In the buffer a request ends as its answers settle it, whatever was in the buffer before. -/
private theorem awaitName?_eq (peer : Address) (answers : List (Except Errno Bytes))
    {buffer : Bytes} (room : buffer.length = packetRoom) :
    awaitName? peer buffer answers = some (settle peer answers) := by
  -- An event can lie behind any number of answers, so the induction is on how many are left.
  induction size : answers.length using Nat.strongRecOn generalizing answers buffer with
  | ind size ih =>
    subst size
    obtain ⟨result, next, is⟩ := nextEvent?_next peer answers room
    rw [awaitName?]
    split
    next none => cases next.symm.trans none
    next e later ended =>
      cases next.symm.trans ended
      cases is with
      | ended settled => rw [settled]
    next found later ended =>
      cases next.symm.trans ended
      cases is with
      | @event packet _ _ _ event held slice settled =>
        rw [slice, settled]
        simp only [Option.bind_eq_bind, Option.bind_some, decision?_eq event]
        cases verdict : decides? peer (.ok packet) with
        | some outcome => exact congrArg some (settle_decided verdict).symm
        | none =>
          rw [settle_undecided verdict]
          exact ih _ (nextEvent?_shorter next) later held rfl

/-! ### Packet by packet -/

private theorem read_store (on : Descriptor) (host : Host) :
    (Host.read on packetRoom host).1 =
        (Host.answer host.script.read (.error Errno.tryAgain)).1.map (·.take packetRoom) ∧
      (Host.read on packetRoom host).2.script.read =
        (Host.answer host.script.read (.error Errno.tryAgain)).2 := ⟨rfl, rfl⟩

private theorem awaitName_run (on : Descriptor) (peer : Address) {patience : Nat} {host : Host}
    (enough : host.script.read.length < patience) :
    ∃ after, (awaitName on peer patience).run host = ((settle peer host.script.read).1, after) ∧
      after.script.read = (settle peer host.script.read).2 := by
  induction patience generalizing host with
  | zero => exact absurd enough (Nat.not_lt_zero _)
  | succ patience ih =>
    have told : ((Host.read on packetRoom).attempt : Act Host IoError _).run host =
        (.ok (Host.read on packetRoom host).1, (Host.read on packetRoom host).2) :=
      Act.attempt_run rfl
    obtain ⟨heard, left⟩ := read_store on host
    rw [awaitName, Act.bind_run_ok told]
    generalize (Host.read on packetRoom host).1 = outcome at heard ⊢
    generalize (Host.read on packetRoom host).2 = between at left ⊢
    cases store : host.script.read with
    | nil =>
      rw [store] at heard left
      subst heard
      exact ⟨between, rfl, left⟩
    | cons answer later =>
      rw [store] at heard left enough
      replace left : between.script.read = later := left
      have onward := @ih between (by rw [left]; exact Nat.lt_of_succ_lt_succ enough)
      rw [left] at onward
      cases answer with
      | ok packet =>
        replace heard : outcome = .ok (packet.take packetRoom) := heard
        subst heard
        dsimp only
        -- A packet that is longer than the buffer says what its front says.
        rw [verdict?_take]
        split
        next outcome verdict =>
          rw [settle_decided (show decides? peer (.ok packet) = some outcome from verdict)]
          exact ⟨between, rfl, left⟩
        next verdict =>
          rw [settle_undecided (show decides? peer (.ok packet) = none from verdict)]
          exact onward
      | error e =>
        replace heard : outcome = .error e := heard
        subst heard
        dsimp only
        split
        next again =>
          rw [settle_undecided (decides?_interrupted again)]
          exact onward
        next silent =>
          rw [settle_decided (decides?_silent silent)]
          exact ⟨between, rfl, left⟩
        next again silent =>
          rw [settle_decided (decides?_failed again silent)]
          exact ⟨between, rfl, left⟩

/-- A request that went out whole ends as the answers in store settle it. -/
theorem remoteName_run (adapter : Adapter) (peer : Address) {host sent : Host}
    (asked : (Host.write adapter.socket (nameRequest peer)).run host =
      (.ok (nameRequest peer).length, sent)) :
    ∃ after, (adapter.remoteName peer).run host = ((settle peer sent.script.read).1, after) ∧
      after.script.read = (settle peer sent.script.read).2 := by
  have onward : (adapter.remoteName peer).run host =
      (awaitName adapter.socket peer (sent.script.read.length + 1)).run sent :=
    (Act.bind_run_ok (Act.mapError_run_ok _ asked) _).trans
      (congrFun (if_neg (fun short => short rfl)) sent)
  rw [onward]
  exact awaitName_run adapter.socket peer (Nat.lt_succ_self _)

/-! ### The first answer that decides -/

/-- What settles a request is the first answer that decides anything; where there is none, it is the
silence after the last one. -/
private theorem settle_first (peer : Address) (answers : List (Except Errno Bytes)) :
    ∃ passed decisive behind,
      answers ++ [.error Errno.tryAgain] = passed ++ decisive :: behind ∧
      (∀ answer ∈ passed, ∀ outcome, ¬Decides peer answer outcome) ∧
      (∀ outcome, Decides peer decisive outcome ↔ outcome = (settle peer answers).1) ∧
      (settle peer answers).2 = answers.drop (passed.length + 1) := by
  have only {answer : Except Errno Bytes} {outcome : Except IoError String}
      (decided : decides? peer answer = some outcome) (other : Except IoError String) :
      Decides peer answer other ↔ other = outcome := by
    rw [← decides?_iff, decided, Option.some.injEq, eq_comm]
  -- By induction on the answers: the first one decides, or it belongs to those that are passed.
  induction answers with
  | nil => exact ⟨[], _, [], rfl, nofun, only (decides?_silent rfl), rfl⟩
  | cons answer later ih =>
    cases decided : decides? peer answer with
    | some outcome =>
      rw [settle_decided decided]
      exact ⟨[], answer, _, rfl, nofun, only decided, rfl⟩
    | none =>
      obtain ⟨passed, decisive, behind, parts, undecided, decides, left⟩ := ih
      rw [settle_undecided decided]
      refine ⟨answer :: passed, decisive, behind, by rw [List.cons_append, parts]; rfl, ?_, decides,
        left⟩
      exact List.forall_mem_cons.mpr ⟨decides?_none_iff.mp decided, undecided⟩

/-- The second answers are the first ones with others between them that decide nothing. -/
inductive Inserted (peer : Address) :
    List (Except Errno Bytes) → List (Except Errno Bytes) → Prop where
  | none : Inserted peer [] []
  | same (answer : Except Errno Bytes) {answers answers' : List (Except Errno Bytes)}
      (others : Inserted peer answers answers') :
      Inserted peer (answer :: answers) (answer :: answers')
  | noise {answer : Except Errno Bytes} {answers answers' : List (Except Errno Bytes)}
      (undecided : ∀ outcome, ¬Decides peer answer outcome)
      (others : Inserted peer answers answers') : Inserted peer answers (answer :: answers')

private theorem Inserted.settle {peer : Address} {answers answers' : List (Except Errno Bytes)}
    (inserted : Inserted peer answers answers') :
    (settle peer answers').1 = (settle peer answers).1 := by
  induction inserted with
  | none => rfl
  | same answer others ih =>
    cases decided : decides? peer answer with
    | some outcome => rw [settle_decided decided, settle_decided decided]
    | none => rw [settle_undecided decided, settle_undecided decided, ih]
  | noise undecided others ih => rw [settle_undecided (decides?_none_iff.mpr undecided), ih]

/-- How a name request ended that had these answers in store when it was out: as the first decisive
one of them says, behind which nothing was read. In a buffer it ends the same way, whatever is in
the buffer, and no index is out of bounds. -/
structure Settled (peer : Address) (answers : List (Except Errno Bytes))
    (ended : Except IoError String × Host) : Prop where
  first : ∃ passed decisive behind,
    answers ++ [.error Errno.tryAgain] = passed ++ decisive :: behind ∧
    (∀ answer ∈ passed, ∀ outcome, ¬Decides peer answer outcome) ∧
    (∀ outcome, Decides peer decisive outcome ↔ outcome = ended.1) ∧
    ended.2.script.read = answers.drop (passed.length + 1)
  buffered : ∀ buffer, buffer.length = packetRoom →
    awaitName? peer buffer answers = some (ended.1, ended.2.script.read)

/-- Once it is sent, a request for a name is settled by the first decisive answer of the host, and
answers that decide nothing make no difference wherever they come in between. -/
theorem remoteName_settled (adapter : Adapter) (peer : Address) {host sent : Host}
    (asked : (Host.write adapter.socket (nameRequest peer)).run host =
      (.ok (nameRequest peer).length, sent)) :
    Settled peer sent.script.read ((adapter.remoteName peer).run host) ∧
    ∀ (adapter' : Adapter) (host' sent' : Host),
      (Host.write adapter'.socket (nameRequest peer)).run host' =
        (.ok (nameRequest peer).length, sent') →
      Inserted peer sent.script.read sent'.script.read →
      ((adapter'.remoteName peer).run host').1 = ((adapter.remoteName peer).run host).1 := by
  obtain ⟨after, ended, left⟩ := remoteName_run adapter peer asked
  rw [ended]
  refine ⟨⟨?_, ?_⟩, ?_⟩
  · rw [left]
    exact settle_first peer sent.script.read
  · intro buffer room
    rw [awaitName?_eq peer sent.script.read room, left]
  · intro adapter' host' sent' asked' inserted
    -- Both requests end as their answers settle them, so only the answers are to be compared.
    obtain ⟨after', ended', _⟩ := remoteName_run adapter' peer asked'
    rw [ended']
    exact inserted.settle

/-- An interruption, a packet that is no event, one that is cut short, the name of another peer in
an event whose length byte is too large, and a command that started well: none of them matters. -/
theorem remoteName_settled_noisy :
    let peer : Address := ⟨[0, 0x16, 0x53, 1, 2, 3], rfl⟩
    let adapter : Adapter := ⟨⟨0⟩, 0, 8, 16⟩
    let named : Bytes := [4, 7, 255, 0, 3, 2, 1, 0x53, 0x16, 0, 0x4E, 0x58, 0x54, 0, 0x21]
    let noise : List (Except Errno Bytes) :=
      [.error Errno.interrupted, .ok [2, 7, 11], .ok [4], .ok [4, 7, 255, 0, 9, 9, 9, 9, 9, 9, 65],
        .ok [4, 15, 4, 0, 1, 0x19, 4]]
    let quiet : Host := .ofScript { read := [.ok named] }
    let noisy : Host := .ofScript { read := noise ++ [.ok named] }
    (Host.write adapter.socket (nameRequest peer)).run quiet =
      (.ok (nameRequest peer).length, (Host.write adapter.socket (nameRequest peer) quiet).2) ∧
    ((adapter.remoteName peer).run quiet).1.toOption = some "NXT" ∧
    ((adapter.remoteName peer).run noisy).1.toOption = some "NXT" := by
  intro peer adapter named noise quiet noisy
  have asked : (Host.write adapter.socket (nameRequest peer)).run quiet =
      (.ok (nameRequest peer).length, (Host.write adapter.socket (nameRequest peer) quiet).2) := rfl
  have name : ((adapter.remoteName peer).run quiet).1.toOption = some "NXT" := by decide +kernel
  have undecided {answer : Except Errno Bytes} (no : decides? peer answer = none) :=
    decides?_none_iff.mp no
  obtain ⟨_, unmoved⟩ := remoteName_settled adapter peer asked
  have same := unmoved adapter noisy _ rfl <| .noise (undecided rfl) <| .noise (undecided rfl) <|
    .noise (undecided rfl) <| .noise (undecided rfl) <| .noise (undecided rfl) <|
    .same (.ok named) .none
  exact ⟨asked, name, by rw [same, name]⟩

end BrickControl.Radio.Adapter
