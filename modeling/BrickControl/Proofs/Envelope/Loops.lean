import BrickControl.Envelope

/-!
# Transfers in pieces

Rules for the loops that carry an envelope. A backend may take and give a piece of any size at each
call; what matters is an invariant `P bytes state`, which says of a state which bytes are still to
be moved. `Takes P` and `Gives P` ask that one steady call moves some of them and keeps the
invariant. From one call the rules conclude what a whole loop does.
-/
namespace BrickControl.Envelope

variable {σ : Type} [Backend σ] {P : Bytes → σ → Prop}

/-- A body behind its length, without regard to the longest body. -/
def wrap (body : Bytes) : Bytes := Bytes.littleEndian headerSize body.length ++ body

theorem length_wrap (body : Bytes) : (wrap body).length = headerSize + body.length := by
  simp [wrap]

theorem wrap_ne_nil (body : Bytes) : wrap body ≠ [] := by
  simp [wrap, headerSize, Bytes.littleEndian]

theorem encode_eq_wrap (body : Bytes) (small : body.length ≤ maxBody) :
    encode body = .ok (wrap body) := by
  have fits : ¬ maxBody < body.length := by omega
  simp only [encode, gt_iff_lt, if_neg fits, wrap]

theorem value_header (body : Bytes) (small : body.length ≤ maxBody) :
    Bytes.value (Bytes.littleEndian headerSize body.length) = body.length := by
  rw [Bytes.value_littleEndian]
  apply Nat.mod_eq_of_lt
  have width : Nat.pow 256 headerSize = maxBody + 1 := by decide
  omega

/-- A steady write takes some of the bytes that are still to be sent. -/
def Takes (P : Bytes → σ → Prop) : Prop :=
  ∀ rest state, P rest state → rest ≠ [] →
    ∃ n after, 0 < n ∧ n ≤ rest.length ∧ Backend.steadyWrite rest state = (.ok n, after) ∧
      P (rest.drop n) after

/-- A steady read that asks for no more than there is gives some of the bytes that come next. -/
def Gives (P : Bytes → σ → Prop) : Prop :=
  ∀ bytes buffer state, P bytes state → buffer ≠ [] → buffer.length ≤ bytes.length →
    ∃ n after, 0 < n ∧ n ≤ buffer.length ∧
      Backend.steadyRead buffer state = (⟨.ok n, Bytes.overlay (bytes.take n) buffer⟩, after) ∧
      P (bytes.drop n) after

/-- The next length field comes in one piece. -/
def HeaderWhole (state : σ) : Prop :=
  (Backend.steadyRead (List.replicate headerSize 0) state).1.outcome = .ok headerSize

/-! ### One turn of each loop -/

theorem sendAll_step {rest : Bytes} {state after : σ} {n : Nat} (more : rest ≠ [])
    (wrote : Backend.steadyWrite rest state = (.ok (n + 1), after)) :
    sendAll rest state = sendAll (rest.drop (n + 1)) after := by
  rw [sendAll, dif_neg more, wrote]

theorem fillAll_failed {buffer held : Bytes} {state after : σ} {e : TransportError}
    (more : buffer ≠ []) (failed : Backend.steadyRead buffer state = (⟨.error e, held⟩, after)) :
    fillAll buffer state = ((.error e, held), after) := by
  rw [fillAll, dif_neg more]
  split
  all_goals simp_all

theorem fillAll_nothing {buffer held : Bytes} {state after : σ} (more : buffer ≠ [])
    (nothing : Backend.steadyRead buffer state = (⟨.ok 0, held⟩, after)) :
    fillAll buffer state = ((.error .disconnected, held), after) := by
  rw [fillAll, dif_neg more]
  split
  all_goals simp_all

/-- The piece stays at the front of the buffer, and the rest of it is filled in the same way. -/
theorem fillAll_step {buffer held : Bytes} {state after : σ} {n : Nat} (more : buffer ≠ [])
    (got : Backend.steadyRead buffer state = (⟨.ok (n + 1), held⟩, after)) :
    fillAll buffer state =
      (((fillAll (held.drop (n + 1)) after).1.1,
        held.take (n + 1) ++ (fillAll (held.drop (n + 1)) after).1.2),
        (fillAll (held.drop (n + 1)) after).2) := by
  rw [fillAll, dif_neg more]
  split
  all_goals simp_all

theorem drain_step {remaining n : Nat} {held : Bytes} {state after : σ} (more : remaining ≠ 0)
    (got : Backend.steadyRead (List.replicate (min remaining drainSize) 0) state =
      (⟨.ok (n + 1), held⟩, after)) :
    drain remaining state = drain (remaining - (n + 1)) after := by
  rw [drain, if_neg more, got]

/-! ### Whole loops -/

private theorem sendAll_of_takes (takes : Takes P) (rest : Bytes) (state : σ)
    (before : P rest state) : ∃ after, sendAll rest state = (.ok (), after) ∧ P [] after := by
  induction rest, state using sendAll.induct with
  | case1 state => exact ⟨state, by rw [sendAll, dif_pos rfl], before⟩
  -- A write that fails, or that takes nothing, is not what `takes` says of it.
  | case2 rest state more e after failed =>
    obtain ⟨n, reached, _, _, wrote, _⟩ := takes rest state before more
    rw [failed] at wrote
    cases wrote
  | case3 rest state more after nothing =>
    obtain ⟨n, reached, positive, _, wrote, _⟩ := takes rest state before more
    rw [nothing] at wrote
    cases wrote
    omega
  | case4 rest state more n after wrote ih =>
    obtain ⟨count, reached, _, _, taken, kept⟩ := takes rest state before more
    rw [wrote] at taken
    cases taken
    rw [sendAll_step more wrote]
    exact ih kept

private theorem fillAll_of_gives (gives : Gives P) (bytes buffer : Bytes) (state : σ)
    (before : P bytes state) (enough : buffer.length ≤ bytes.length) :
    ∃ after, fillAll buffer state = ((.ok (), bytes.take buffer.length), after) ∧
      P (bytes.drop buffer.length) after := by
  induction buffer, state using fillAll.induct generalizing bytes with
  | case1 state =>
    exact ⟨state, by rw [fillAll, dif_pos rfl, List.length_nil, List.take_zero], before⟩
  | case2 buffer state more e held after failed =>
    obtain ⟨n, reached, _, _, got, _⟩ := gives bytes buffer state before more enough
    rw [failed] at got
    cases got
  | case3 buffer state more held after nothing =>
    obtain ⟨n, reached, positive, _, got, _⟩ := gives bytes buffer state before more enough
    rw [nothing] at got
    cases got
    omega
  | case4 buffer state more n held after read outcome rest last filled ih =>
    obtain ⟨count, reached, _, within, got, kept⟩ := gives bytes buffer state before more enough
    have step := fillAll_step more read
    rw [read] at got
    cases got
    -- The piece is at the front of the buffer; behind it the buffer is what it was.
    have piece : (bytes.take (n + 1)).length = n + 1 := by
      rw [List.length_take]
      omega
    rw [Bytes.drop_overlay piece within, Bytes.take_overlay piece within] at step
    rw [Bytes.drop_overlay piece within] at ih
    obtain ⟨last, whole, ended⟩ := ih (bytes.drop (n + 1)) kept
      (by simp only [List.length_drop]; omega)
    have rest : n + 1 + (buffer.drop (n + 1)).length = buffer.length := by
      rw [List.length_drop]
      omega
    refine ⟨last, ?_, ?_⟩
    · rw [step, whole, ← List.take_add, rest]
    · rwa [List.drop_drop, rest] at ended

private theorem drain_of_gives (gives : Gives P) (bytes : Bytes) (remaining : Nat) (state : σ)
    (before : P bytes state) (enough : remaining ≤ bytes.length) :
    ∃ after, drain remaining state = (.ok (), after) ∧ P (bytes.drop remaining) after := by
  -- The room of each read is at least one byte and at most what remains.
  have room (remaining : Nat) (state : σ) (more : remaining ≠ 0) (bytes : Bytes)
      (before : P bytes state) (enough : remaining ≤ bytes.length) :=
    gives bytes (List.replicate (min remaining drainSize) 0) state before
      (by simp [drainSize, List.replicate_eq_nil_iff]; omega)
      (by rw [List.length_replicate]; omega)
  induction remaining, state using drain.induct generalizing bytes with
  | case1 state => exact ⟨state, by rw [drain, if_pos rfl], before⟩
  | case2 remaining state more e held after failed =>
    obtain ⟨n, reached, _, _, got, _⟩ := room remaining state more bytes before enough
    rw [failed] at got
    cases got
  | case3 remaining state more held after nothing =>
    obtain ⟨n, reached, positive, _, got, _⟩ := room remaining state more bytes before enough
    rw [nothing] at got
    cases got
    omega
  | case4 remaining state more n held after read ih =>
    obtain ⟨count, reached, _, within, got, kept⟩ := room remaining state more bytes before enough
    have step := drain_step more read
    rw [read] at got
    cases got
    rw [List.length_replicate] at within
    obtain ⟨last, drained, ended⟩ := ih (bytes.drop (n + 1)) kept
      (by simp only [List.length_drop]; omega)
    refine ⟨last, step.trans drained, ?_⟩
    rwa [List.drop_drop, Nat.add_sub_cancel' (by omega)] at ended

/-! ### One envelope -/

/-- One envelope is sent whole. -/
theorem send_of_takes (takes : Takes P) (body : Bytes) (small : body.length ≤ maxBody) (state : σ)
    (before : P (wrap body) state) :
    ∃ after, send body state = (.ok body.length, after) ∧ P [] after := by
  obtain ⟨after, sent, kept⟩ := sendAll_of_takes takes (wrap body) state before
  exact ⟨after, by simp only [send, encode_eq_wrap body small, sent], kept⟩

private theorem receiveHeader_of_gives (gives : Gives P) (body rest : Bytes)
    (small : body.length ≤ maxBody) (state : σ) (before : P (wrap body ++ rest) state)
    (whole : HeaderWhole state) :
    ∃ after, receiveHeader state = (.ok body.length, after) ∧ P (body ++ rest) after := by
  obtain ⟨n, after, _, within, got, kept⟩ := gives (wrap body ++ rest)
    (List.replicate headerSize 0) state before (by decide) (by simp [wrap])
  -- A length field that came in one piece has both of its bytes.
  have both : n = headerSize := by
    rw [HeaderWhole, got] at whole
    cases whole
    rfl
  subst both
  have field : (wrap body ++ rest).take headerSize =
      Bytes.littleEndian headerSize body.length := by
    simp [wrap]
  have behind : (wrap body ++ rest).drop headerSize = body ++ rest := by
    simp [wrap]
  rw [behind] at kept
  rw [field, Bytes.overlay_of_length_eq (by simp)] at got
  refine ⟨after, ?_, kept⟩
  have some : headerSize ≠ 0 := by decide
  simp only [receiveHeader, got, if_neg some, if_true, value_header body small]

/-- One envelope is taken off the stream, whatever the size of the buffer. -/
theorem receive_of_gives (gives : Gives P) (body rest buffer : Bytes)
    (small : body.length ≤ maxBody) (state : σ) (before : P (wrap body ++ rest) state)
    (whole : HeaderWhole state) :
    ∃ after, receive buffer state =
        (⟨.ok (min body.length buffer.length), Bytes.overlay body buffer⟩, after) ∧
      P rest after := by
  obtain ⟨headed, length, kept⟩ := receiveHeader_of_gives gives body rest small state before whole
  -- The body up to the size of the buffer is stored, and what is left of it is drained.
  have room : (buffer.take body.length).length = min buffer.length body.length := by
    rw [List.length_take, Nat.min_comm]
  obtain ⟨filled, fill, kept⟩ := fillAll_of_gives gives (body ++ rest) (buffer.take body.length)
    headed kept (by rw [room, List.length_append]; omega)
  have stored : (body ++ rest).take (min buffer.length body.length) = body.take buffer.length := by
    rw [List.take_append_of_le_length (by omega), ← List.take_eq_take_min]
  have surplus : (body ++ rest).drop (min buffer.length body.length) =
      body.drop buffer.length ++ rest := by
    rw [List.drop_append_of_le_length (by omega), ← List.drop_eq_drop_min]
  rw [room, stored] at fill
  rw [room, surplus] at kept
  have extra : (body.drop buffer.length).length = body.length - buffer.length := List.length_drop ..
  obtain ⟨after, drained, ended⟩ := drain_of_gives gives _ (body.length - buffer.length) filled kept
    (by rw [List.length_append]; omega)
  refine ⟨after, ?_, ?_⟩
  · simp only [receive, length, fill, drained, Bytes.overlay]
  · rwa [← extra, List.drop_left] at ended

end BrickControl.Envelope
