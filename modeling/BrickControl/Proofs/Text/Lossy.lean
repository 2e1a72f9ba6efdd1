import BrickControl.Proofs.Text.Utf8

/-!
# The lossy reading of bytes

`Lossy` says what text stands for any bytes, in terms of the bytes of characters alone. Where a
character can be read it is read; where none can be, the longest start of one, or else one byte, is
a gap with the replacement character in it. There is one such text for any bytes, and it is what
`decodeLossy` returns.
-/
namespace BrickControl.Text.Utf8

/-- The bytes are a start of some character's bytes, or all of them. -/
def Begins (part : Bytes) : Prop := ∃ c, part <+: encodeChar c

/-- No character can be read here. The gap is the longest start of a character, or one byte where
not even one begins. -/
structure Gap (part behind : Bytes) : Prop where
  unreadable : ∀ c, ¬encodeChar c <+: part ++ behind
  nonempty : part ≠ []
  start : part.length = 1 ∨ Begins part
  longest : ∀ longer, longer <+: part ++ behind → Begins longer → longer.length ≤ part.length

/-- The text that stands for bytes, gaps included. -/
inductive Lossy : Bytes → List Char → Prop where
  | done : Lossy [] []
  | character (c : Char) {behind : Bytes} {text : List Char} (later : Lossy behind text) :
      Lossy (encodeChar c ++ behind) (c :: text)
  | gap {part behind : Bytes} {text : List Char} (gap : Gap part behind)
      (later : Lossy behind text) : Lossy (part ++ behind) (Char.ofNat 0xFFFD :: text)

/-! ### What may stand behind a lead byte -/

/-- The bytes may stand behind the lead byte, as far as they go. -/
structure Goes (lead : UInt8) (more : Bytes) : Prop where
  room : ∃ k, trailing lead.toNat = some k ∧ more.length ≤ k
  second : ∀ b ∈ more.head?, secondFits lead.toNat b.toNat
  later : ∀ b ∈ more.tail, continues b.toNat

private theorem trailing_some {lead k : Nat} (grows : trailing lead = some k) :
    k = 0 ∧ lead < 0x80 ∨ k = 1 ∧ 0xC2 ≤ lead ∧ lead < 0xE0 ∨
      k = 2 ∧ 0xE0 ≤ lead ∧ lead < 0xF0 ∨ k = 3 ∧ 0xF0 ≤ lead ∧ lead < 0xF5 := by
  simp only [trailing] at grows
  grind

theorem continues_bounds {byte : Nat} (fits : continues byte) : 0x80 ≤ byte ∧ byte ≤ 0xBF := by
  simpa only [continues, Bool.and_eq_true, decide_eq_true_eq] using fits

theorem secondFits_bounds {lead second : Nat} (fits : secondFits lead second) :
    0x80 ≤ second ∧ second ≤ 0xBF ∧ (lead = 0xE0 → 0xA0 ≤ second) ∧
      (lead = 0xED → second ≤ 0x9F) ∧ (lead = 0xF0 → 0x90 ≤ second) ∧
      (lead = 0xF4 → second ≤ 0x8F) := by
  simp only [secondFits, Bool.and_eq_true, decide_eq_true_eq] at fits
  grind

theorem Goes.shorten {lead : UInt8} {more less : Bytes} (goes : Goes lead more)
    (start : less <+: more) : Goes lead less := by
  obtain ⟨k, grows, size⟩ := goes.room
  obtain ⟨behind, rfl⟩ := start
  rw [List.length_append] at size
  cases less with
  | nil => exact ⟨⟨k, grows, Nat.zero_le k⟩, nofun, nofun⟩
  | cons b less =>
    refine ⟨⟨k, grows, by omega⟩, goes.second, ?_⟩
    intro d member
    exact goes.later d (List.mem_append_left behind member)

/-! ### The bytes of a character, from its lead byte and the bytes behind it -/

theorem toNat_ofNat_of_valid {n : Nat} (valid : n.isValidChar) : (Char.ofNat n).toNat = n := by
  have whole : Char.ofNat n = Char.ofNatAux n valid := dif_pos valid
  rw [whole]
  rfl

theorem ofNat_eq {n : Nat} {b : UInt8} (same : n = b.toNat) : UInt8.ofNat n = b := by
  rw [same, UInt8.ofNat_toNat]

private theorem encodeChar_single {lead : UInt8} (ascii : lead.toNat < 0x80) :
    encodeChar (Char.ofNat lead.toNat) = [lead] := by
  have whole := toNat_ofNat_of_valid (n := lead.toNat) (.inl (by omega))
  simp only [encodeChar, whole, if_pos ascii, UInt8.ofNat_toNat]

private theorem encodeChar_pair {lead b : UInt8} (low : 0xC2 ≤ lead.toNat)
    (high : lead.toNat < 0xE0) (second : secondFits lead.toNat b.toNat) :
    encodeChar (Char.ofNat ((lead.toNat - 0xC0) * 64 + (b.toNat - 0x80))) = [lead, b] := by
  obtain ⟨least, most, _⟩ := secondFits_bounds second
  generalize sum : (lead.toNat - 0xC0) * 64 + (b.toNat - 0x80) = n
  have whole : (Char.ofNat n).toNat = n := toNat_ofNat_of_valid (.inl (by omega))
  simp only [encodeChar, whole]
  rw [if_neg (by omega), if_pos (by omega), ofNat_eq (b := lead) (by omega),
    ofNat_eq (b := b) (by omega)]

private theorem encodeChar_triple {lead b c : UInt8} (low : 0xE0 ≤ lead.toNat)
    (high : lead.toNat < 0xF0)
    (second : secondFits lead.toNat b.toNat) (third : continues c.toNat) :
    encodeChar (Char.ofNat ((lead.toNat - 0xE0) * 4096 + (b.toNat - 0x80) * 64 +
      (c.toNat - 0x80))) = [lead, b, c] := by
  obtain ⟨least, most, long, surrogate, _⟩ := secondFits_bounds second
  obtain ⟨_, _⟩ := continues_bounds third
  generalize sum : (lead.toNat - 0xE0) * 4096 + (b.toNat - 0x80) * 64 + (c.toNat - 0x80) = n
  -- After the lead byte 0xED the second byte keeps the number below the surrogates.
  have valid : n.isValidChar := by
    by_cases last : lead.toNat ≤ 0xED
    · exact .inl (by omega)
    · exact .inr (by omega)
  have whole : (Char.ofNat n).toNat = n := toNat_ofNat_of_valid valid
  simp only [encodeChar, whole]
  rw [if_neg (by omega), if_neg (by omega), if_pos (by omega), ofNat_eq (b := lead) (by omega),
    ofNat_eq (b := b) (by omega), ofNat_eq (b := c) (by omega)]

private theorem encodeChar_quadruple {lead b c d : UInt8} (low : 0xF0 ≤ lead.toNat)
    (high : lead.toNat < 0xF5) (second : secondFits lead.toNat b.toNat)
    (third : continues c.toNat) (fourth : continues d.toNat) :
    encodeChar (Char.ofNat ((lead.toNat - 0xF0) * 262144 + (b.toNat - 0x80) * 4096 +
      (c.toNat - 0x80) * 64 + (d.toNat - 0x80))) = [lead, b, c, d] := by
  obtain ⟨least, most, _, _, long, last⟩ := secondFits_bounds second
  obtain ⟨_, _⟩ := continues_bounds third
  obtain ⟨_, _⟩ := continues_bounds fourth
  generalize sum : (lead.toNat - 0xF0) * 262144 + (b.toNat - 0x80) * 4096 +
    (c.toNat - 0x80) * 64 + (d.toNat - 0x80) = n
  have whole : (Char.ofNat n).toNat = n := toNat_ofNat_of_valid (.inr (by omega))
  simp only [encodeChar, whole]
  rw [if_neg (by omega), if_neg (by omega), if_neg (by omega), ofNat_eq (b := lead) (by omega),
    ofNat_eq (b := b) (by omega), ofNat_eq (b := c) (by omega), ofNat_eq (b := d) (by omega)]

/-! ### The first piece -/

/-- The first piece of bytes: a character whose bytes are there, or a gap of as many bytes as may
stand behind the lead byte. -/
inductive First (lead : UInt8) : Bytes → Option Char × Nat → Prop where
  | character {c : Char} (more behind : Bytes) (bytes : encodeChar c = lead :: more)
      (goes : Goes lead more) (whole : trailing lead.toNat = some more.length) :
      First lead (more ++ behind) (some c, more.length)
  | gap (more behind : Bytes) (goes : more = [] ∨ Goes lead more)
      (short : trailing lead.toNat ≠ some more.length)
      (stops : ∀ b ∈ behind.head?, ¬Goes lead (more ++ [b])) :
      First lead (more ++ behind) (none, more.length)

section

variable {lead b c : UInt8} {k : Nat} {more behind : Bytes}

private theorem Goes.nil (grows : trailing lead.toNat = some k) : Goes lead [] :=
  ⟨⟨k, grows, Nat.zero_le k⟩, nofun, nofun⟩

theorem Goes.one (grows : trailing lead.toNat = some k) (room : 0 < k)
    (second : secondFits lead.toNat b.toNat) : Goes lead [b] :=
  ⟨⟨k, grows, room⟩, by rintro _ ⟨⟩; exact second, nofun⟩

theorem Goes.snoc (goes : Goes lead (b :: more)) (grows : trailing lead.toNat = some k)
    (room : more.length + 1 < k) (next : continues c.toNat) : Goes lead (b :: more ++ [c]) := by
  refine ⟨⟨k, grows, ?_⟩, goes.second, ?_⟩
  · simp only [List.length_append, List.length_cons, List.length_nil]
    omega
  · intro d member
    rcases List.mem_append.mp member with member | member
    · exact goes.later d member
    · rw [List.mem_singleton.mp member]
      exact next

theorem not_goes_end (more : Bytes) : ∀ d ∈ ([] : Bytes).head?, ¬Goes lead (more ++ [d]) := by
  rintro _ ⟨⟩

theorem not_goes_second (unfit : ¬secondFits lead.toNat b.toNat) :
    ∀ d ∈ (b :: behind).head?, ¬Goes lead ([] ++ [d]) := by
  rintro _ ⟨⟩ goes
  exact unfit (goes.second b rfl)

theorem not_goes_later (unfit : ¬continues c.toNat) :
    ∀ d ∈ (c :: behind).head?, ¬Goes lead (b :: more ++ [d]) := by
  rintro _ ⟨⟩ goes
  exact unfit (goes.later c (List.mem_append_right more List.mem_cons_self))

end

/-! One lemma for each length of a sequence, with a case for each byte at which it can break off. -/

private theorem first_pair {lead : UInt8} (rest : Bytes) (low : 0xC2 ≤ lead.toNat)
    (high : lead.toNat < 0xE0) : First lead rest (piece lead rest) := by
  have grows := trailing_one low high
  cases rest with
  | nil =>
    simp only [piece, grows]
    exact .gap [] [] (.inl rfl) (by simp [grows]) (not_goes_end _)
  | cons b behind =>
    by_cases second : secondFits lead.toNat b.toNat
    · simp only [piece, grows, second, if_true]
      exact .character [b] behind (encodeChar_pair low high second)
        (.one grows (by omega) second) grows
    · simp only [piece, grows, second]
      exact .gap [] (b :: behind) (.inl rfl) (by simp [grows]) (not_goes_second second)

private theorem first_triple {lead : UInt8} (rest : Bytes) (low : 0xE0 ≤ lead.toNat)
    (high : lead.toNat < 0xF0) : First lead rest (piece lead rest) := by
  have grows := trailing_two low high
  cases rest with
  | nil =>
    simp only [piece, grows]
    exact .gap [] [] (.inl rfl) (by simp [grows]) (not_goes_end _)
  | cons b after =>
    by_cases second : secondFits lead.toNat b.toNat
    · have one : Goes lead [b] := .one grows (by omega) second
      cases after with
      | nil =>
        simp only [piece, grows, second, if_true]
        exact .gap [b] [] (.inr one) (by simp [grows]) (not_goes_end _)
      | cons c behind =>
        by_cases third : continues c.toNat
        · simp only [piece, grows, second, third, if_true]
          exact .character [b, c] behind (encodeChar_triple low high second third)
            (one.snoc grows (by simp) third) grows
        · simp only [piece, grows, second, third, if_true]
          exact .gap [b] (c :: behind) (.inr one) (by simp [grows]) (not_goes_later third)
    · simp only [piece, grows, second]
      exact .gap [] (b :: after) (.inl rfl) (by simp [grows]) (not_goes_second second)

private theorem first_quadruple {lead : UInt8} (rest : Bytes) (low : 0xF0 ≤ lead.toNat)
    (high : lead.toNat < 0xF5) : First lead rest (piece lead rest) := by
  have grows := trailing_three low high
  cases rest with
  | nil =>
    simp only [piece, grows]
    exact .gap [] [] (.inl rfl) (by simp [grows]) (not_goes_end _)
  | cons b after =>
    by_cases second : secondFits lead.toNat b.toNat
    · have one : Goes lead [b] := .one grows (by omega) second
      cases after with
      | nil =>
        simp only [piece, grows, second, if_true]
        exact .gap [b] [] (.inr one) (by simp [grows]) (not_goes_end _)
      | cons c last =>
        by_cases third : continues c.toNat
        · have two : Goes lead [b, c] := one.snoc grows (by simp) third
          cases last with
          | nil =>
            simp only [piece, grows, second, third, if_true]
            exact .gap [b, c] [] (.inr two) (by simp [grows]) (not_goes_end _)
          | cons d behind =>
            by_cases fourth : continues d.toNat
            · simp only [piece, grows, second, third, fourth, if_true]
              exact .character [b, c, d] behind
                (encodeChar_quadruple low high second third fourth)
                (two.snoc grows (by simp) fourth) grows
            · simp only [piece, grows, second, third, fourth, if_true]
              exact .gap [b, c] (d :: behind) (.inr two) (by simp [grows]) (not_goes_later fourth)
        · have stop : piece lead (b :: c :: last) = (none, 1) := by
            cases last <;> simp only [piece, grows, second, third, if_true] <;> rfl
          rw [stop]
          exact .gap [b] (c :: last) (.inr one) (by simp [grows]) (not_goes_later third)
    · simp only [piece, grows, second]
      exact .gap [] (b :: after) (.inl rfl) (by simp [grows]) (not_goes_second second)

/-- Every reading begins with a piece of this sort. -/
theorem first_piece (lead : UInt8) (rest : Bytes) : First lead rest (piece lead rest) := by
  -- By the range of the lead byte; one that leads nothing is a gap of its own.
  cases grows : trailing lead.toNat with
  | none =>
    simp only [piece, grows]
    refine .gap [] rest (.inl rfl) (by simp [grows]) ?_
    rintro b _ goes
    obtain ⟨k, grows', _⟩ := goes.room
    cases grows.symm.trans grows'
  | some k =>
    rcases trailing_some grows with ⟨rfl, ascii⟩ | ⟨_, low, high⟩ | ⟨_, low, high⟩ | ⟨_, low, high⟩
    · simp only [piece, grows]
      exact .character [] rest (encodeChar_single ascii) (.nil grows) grows
    · exact first_pair rest low high
    · exact first_triple rest low high
    · exact first_quadruple rest low high

/-! ### Starts of characters -/

theorem encodeChar_ne_nil (c : Char) : encodeChar c ≠ [] := by
  intro none
  have read := pieces_encodeChar c []
  rw [none, List.nil_append, pieces] at read
  cases read

/-- The bytes at the front of data are those of one character at most. -/
theorem encodeChar_inj {c c' : Char} {behind behind' : Bytes}
    (same : encodeChar c ++ behind = encodeChar c' ++ behind') : c = c' ∧ behind = behind' := by
  have read := pieces_encodeChar c behind
  rw [same, pieces_encodeChar] at read
  cases (List.cons.inj read).1
  exact ⟨rfl, List.append_cancel_left same⟩

/-- The bytes of a character go as far as its lead byte says. -/
theorem encodeChar_goes {c : Char} {lead : UInt8} {more : Bytes}
    (bytes : encodeChar c = lead :: more) :
    Goes lead more ∧ trailing lead.toNat = some more.length := by
  have read := pieces_encodeChar c []
  rw [List.append_nil, bytes, pieces, pieces] at read
  -- The bytes are read as their character, so they are not a gap, and nothing is behind them.
  have found := (List.cons.inj read).1
  have first := first_piece lead more
  generalize piece lead more = result at found first
  cases first with
  | character part behind bytes' goes whole =>
    cases found
    have all : part ++ behind = part := (List.cons.inj (bytes.symm.trans bytes')).2
    rw [all]
    exact ⟨goes, whole⟩
  | gap => cases found

/-- Bytes that go as far as the lead byte says are the bytes of a character. -/
theorem exists_char {lead : UInt8} {more : Bytes} (goes : Goes lead more)
    (whole : trailing lead.toNat = some more.length) : ∃ c, encodeChar c = lead :: more := by
  have first := first_piece lead more
  generalize piece lead more = result at first
  cases first with
  | character part behind bytes _ whole' =>
    have none : behind = [] := by
      have same := Option.some.inj (whole'.symm.trans whole)
      rw [List.length_append] at same
      exact List.eq_nil_of_length_eq_zero (by omega)
    exact ⟨_, by rw [bytes, none, List.append_nil]⟩
  -- The bytes go to their end, so they do not stop before it as those of a gap do.
  | gap part behind _ short stops =>
    cases behind with
    | nil =>
      rw [List.append_nil] at whole
      exact absurd whole short
    | cons b behind =>
      exact absurd (goes.shorten (by simp)) (stops b rfl)

private theorem begins_goes {lead : UInt8} {more : Bytes} (begins : Begins (lead :: more)) :
    Goes lead more := by
  obtain ⟨c, start⟩ := begins
  cases bytes : encodeChar c with
  | nil => exact absurd bytes (encodeChar_ne_nil c)
  | cons lead' all =>
    rw [bytes, List.cons_prefix_cons] at start
    obtain ⟨rfl, start⟩ := start
    exact (encodeChar_goes bytes).1.shorten start

/-- Where the byte behind the lead byte is given, any continuation bytes make up a character. -/
theorem goes_begins {lead b : UInt8} {more : Bytes} (goes : Goes lead (b :: more)) :
    Begins (lead :: b :: more) := by
  obtain ⟨k, grows, room⟩ := goes.room
  rw [List.length_cons] at room
  have padded : Goes lead (b :: more ++ List.replicate (k - (more.length + 1)) 0x80) := by
    refine ⟨⟨k, grows, ?_⟩, goes.second, ?_⟩
    · simp only [List.length_append, List.length_cons, List.length_replicate]
      omega
    · intro d member
      rcases List.mem_append.mp member with member | member
      · exact goes.later d member
      · rw [List.eq_of_mem_replicate member]
        decide
  have whole : trailing lead.toNat =
      some (b :: more ++ List.replicate (k - (more.length + 1)) 0x80).length := by
    rw [grows, List.length_append, List.length_cons, List.length_replicate]
    congr 1
    omega
  obtain ⟨c, bytes⟩ := exists_char padded whole
  exact ⟨c, List.replicate (k - (more.length + 1)) 0x80, bytes.symm⟩

/-! ### The text of any bytes -/

/-- Nothing that goes is longer than a gap. -/
theorem length_le_of_stops {lead : UInt8} {more behind longer : Bytes}
    (stops : ∀ b ∈ behind.head?, ¬Goes lead (more ++ [b])) (goes : Goes lead longer)
    (inside : longer <+: more ++ behind) : longer.length ≤ more.length := by
  cases behind with
  | nil =>
    rw [List.append_nil] at inside
    exact inside.length_le
  | cons b behind =>
    refine Nat.le_of_not_lt fun beyond => ?_
    have step : more ++ [b] <+: longer :=
      List.prefix_of_prefix_length_le ⟨behind, by simp⟩ inside (by simp; omega)
    exact stops b rfl (goes.shorten step)

/-- What is read piece by piece stands for the bytes. -/
private theorem lossy_pieces (data : Bytes) :
    Lossy data ((pieces data).map fun found => found.getD (Char.ofNat 0xFFFD)) := by
  -- The induction follows the reading: what is behind the first piece is shorter.
  induction data using pieces.induct with
  | case1 =>
    rw [pieces]
    exact .done
  | case2 lead rest ih =>
    have first := first_piece lead rest
    rw [pieces, List.map_cons]
    generalize piece lead rest = found at first ih ⊢
    cases first with
    | character more behind bytes =>
      rw [List.drop_left] at ih ⊢
      rw [← List.cons_append, ← bytes]
      exact .character _ ih
    | gap more behind goes short stops =>
      rw [List.drop_left] at ih ⊢
      rw [← List.cons_append]
      refine .gap ⟨?_, List.cons_ne_nil lead more, ?_, ?_⟩ ih
      · intro c start
        cases bytes : encodeChar c with
        | nil => exact encodeChar_ne_nil c bytes
        | cons lead' all =>
          rw [bytes, List.cons_append, List.cons_prefix_cons] at start
          obtain ⟨rfl, start⟩ := start
          obtain ⟨all_goes, whole⟩ := encodeChar_goes bytes
          have most := length_le_of_stops stops all_goes start
          -- What goes is no longer than what the lead byte says, so the gap would be the character.
          have least : more.length ≤ all.length := by
            rcases goes with rfl | goes
            · exact Nat.zero_le _
            · obtain ⟨k, grows, room⟩ := goes.room
              cases whole.symm.trans grows
              exact room
          exact short (by rw [whole]; congr 1; omega)
      · cases more with
        | nil => exact .inl rfl
        | cons b more => exact .inr (goes_begins (goes.resolve_left (List.cons_ne_nil b more)))
      · intro longer inside begins
        cases longer with
        | nil => exact Nat.zero_le _
        | cons lead' longer =>
          rw [List.cons_append, List.cons_prefix_cons] at inside
          obtain ⟨rfl, inside⟩ := inside
          exact Nat.succ_le_succ (length_le_of_stops stops (begins_goes begins) inside)

/-- Where a character can be read, any text that stands for the bytes begins with it. -/
private theorem Lossy.of_character {c : Char} {behind : Bytes} {text : List Char}
    (lossy : Lossy (encodeChar c ++ behind) text) :
    ∃ later, text = c :: later ∧ Lossy behind later := by
  generalize same : encodeChar c ++ behind = data at lossy
  cases lossy with
  | done => exact absurd (List.append_eq_nil_iff.mp same).1 (encodeChar_ne_nil c)
  | character c' later =>
    obtain ⟨rfl, rfl⟩ := encodeChar_inj same
    exact ⟨_, rfl, later⟩
  | gap gap => exact absurd ⟨behind, same⟩ (gap.unreadable c)

private theorem Gap.length_le {part part' behind : Bytes} (gap : Gap part behind)
    (inside : part' <+: part ++ behind) (start : part'.length = 1 ∨ Begins part') :
    part'.length ≤ part.length := by
  rcases start with single | begins
  · rw [single]
    exact List.length_pos_iff.mpr gap.nonempty
  · exact gap.longest part' inside begins

/-- Where none can be read, any text that stands for the bytes begins with the replacement
character, for the same gap. -/
private theorem Lossy.of_gap {part behind : Bytes} {text : List Char} (gap : Gap part behind)
    (lossy : Lossy (part ++ behind) text) :
    ∃ later, text = Char.ofNat 0xFFFD :: later ∧ Lossy behind later := by
  generalize same : part ++ behind = data at lossy
  cases lossy with
  | done => exact absurd (List.append_eq_nil_iff.mp same).1 gap.nonempty
  | character c later => exact absurd ⟨_, same.symm⟩ (gap.unreadable c)
  | @gap part' behind' _ gap' later =>
    -- Each of the two is as long as the other, since each is the longest.
    have length : part.length = part'.length :=
      Nat.le_antisymm (gap'.length_le ⟨behind, same⟩ gap.start)
        (gap.length_le ⟨behind', same.symm⟩ gap'.start)
    obtain ⟨_, rfl⟩ := List.append_inj same length
    exact ⟨_, rfl, later⟩

/-- One text stands for any bytes. -/
theorem Lossy.unique {data : Bytes} {text text' : List Char} (one : Lossy data text)
    (other : Lossy data text') : text = text' := by
  -- The other text begins as this one does, for where a character can be read there is no gap.
  induction one generalizing text' with
  | done =>
    generalize same : ([] : Bytes) = data at other
    cases other with
    | done => rfl
    | character c => exact absurd (List.append_eq_nil_iff.mp same.symm).1 (encodeChar_ne_nil c)
    | gap gap => exact absurd (List.append_eq_nil_iff.mp same.symm).1 gap.nonempty
  | character c later ih =>
    obtain ⟨later', rfl, behind⟩ := other.of_character
    rw [ih behind]
  | gap gap later ih =>
    obtain ⟨later', rfl, behind⟩ := other.of_gap gap
    rw [ih behind]

/-- The text that stands for bytes is their lossy reading. -/
theorem lossy_iff {data : Bytes} {text : List Char} :
    Lossy data text ↔ text = (decodeLossy data).toList := by
  have read : Lossy data (decodeLossy data).toList := by
    rw [decodeLossy, String.toList_ofList]
    exact lossy_pieces data
  constructor
  · intro lossy
    exact lossy.unique read
  · rintro rfl
    exact read

/-! ### Where the strict reading succeeds -/

private theorem pieces_of_decode? {data : Bytes} {text : String} (read : decode? data = some text) :
    pieces data = text.toList.map some := by
  obtain ⟨chars, whole, rfl⟩ := Option.map_eq_some_iff.mp read
  rw [String.toList_ofList]
  clear read
  generalize pieces data = found at whole
  induction found generalizing chars with
  | nil =>
    cases whole
    rfl
  | cons piece rest ih =>
    simp only [List.mapM_cons, Option.bind_eq_bind, Option.bind_eq_some_iff] at whole
    obtain ⟨c, rfl, chars, later, same⟩ := whole
    cases same
    rw [ih chars later]
    rfl

private theorem flatMap_of_pieces {data : Bytes} {text : List Char}
    (read : pieces data = text.map some) : text.flatMap encodeChar = data := by
  -- The induction follows the reading, and without a gap each piece is the bytes of a character.
  induction data using pieces.induct generalizing text with
  | case1 =>
    rw [pieces] at read
    rw [List.map_eq_nil_iff.mp read.symm, List.flatMap_nil]
  | case2 lead rest ih =>
    have first := first_piece lead rest
    rw [pieces] at read
    generalize piece lead rest = found at first ih read
    cases text with
    | nil => cases read
    | cons c later =>
      obtain ⟨same, behind⟩ := List.cons.inj read
      cases first with
      | character more rest bytes =>
        cases same
        rw [List.flatMap_cons, ih behind, bytes, List.drop_left, List.cons_append]
      | gap => cases same

/-- The strict reading finds the text whose bytes these are, and only that. -/
theorem decode?_eq_some_iff {data : Bytes} {text : String} :
    decode? data = some text ↔ encode text = data := by
  constructor
  · intro read
    exact flatMap_of_pieces (pieces_of_decode? read)
  · rintro rfl
    exact decode?_encode text

/-! ### Zero bytes -/

/-- Only the character of number zero has a zero byte. -/
theorem zero_mem_encodeChar {c : Char} : 0 ∈ encodeChar c ↔ c = Char.ofNat 0 := by
  constructor
  · intro zero
    cases bytes : encodeChar c with
    | nil => exact absurd bytes (encodeChar_ne_nil c)
    | cons lead more =>
      -- A zero byte is a sequence of its own, and no zero byte continues a sequence.
      obtain ⟨goes, whole⟩ := encodeChar_goes bytes
      rw [bytes] at zero
      rcases List.mem_cons.mp zero with rfl | zero
      · have alone : more = [] := List.eq_nil_of_length_eq_zero (Option.some.inj whole).symm
        have same : encodeChar c ++ [] = encodeChar (Char.ofNat 0) ++ [] := by
          rw [bytes, alone]
          rfl
        exact (encodeChar_inj same).1
      · cases more with
        | nil => cases zero
        | cons b more =>
          rcases List.mem_cons.mp zero with rfl | zero
          · exact absurd (secondFits_bounds (goes.second 0 rfl)).1 (by decide)
          · exact absurd (continues_bounds (goes.later 0 zero)).1 (by decide)
  · rintro rfl
    decide

theorem zero_mem_encode {text : String} : 0 ∈ encode text ↔ Char.ofNat 0 ∈ text.toList := by
  simp only [encode, List.mem_flatMap, zero_mem_encodeChar, exists_eq_right]

/-- A text has the character of number zero only from a zero byte. -/
theorem Lossy.zero_mem {data : Bytes} {text : List Char} (lossy : Lossy data text)
    (zero : Char.ofNat 0 ∈ text) : 0 ∈ data := by
  -- By induction on the reading, whose replacement characters are no zeros.
  induction lossy with
  | done => cases zero
  | character c later ih =>
    rcases List.mem_cons.mp zero with same | zero
    · exact List.mem_append_left _ (zero_mem_encodeChar.mpr same.symm)
    · exact List.mem_append_right _ (ih zero)
  | gap _ _ ih =>
    rcases List.mem_cons.mp zero with same | zero
    · exact absurd same (by decide)
    · exact List.mem_append_right _ (ih zero)

end BrickControl.Text.Utf8
