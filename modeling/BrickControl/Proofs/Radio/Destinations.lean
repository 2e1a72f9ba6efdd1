import BrickControl.Proofs.Radio.Search
import BrickControl.Proofs.Radio.Spelling

/-!
# Where a destination leads

A text means an address exactly where it spells one, and any other text but the empty one is a name.
Connecting to an address needs no adapter of this host: there is a stream socket and nothing else.
-/
namespace BrickControl

open Text.Hex (Digit)

/-- The call is about a local adapter: a socket for one, or something asked of it. -/
def Call.OnAdapter : Call → Prop
  | .socket kind _ => kind = .adapter
  | .bind .. | .adapters .. | .inquiry .. | .read .. | .write .. => True
  | _ => False

namespace Radio

namespace Address

variable {text : String} {a : Address}

/-- The text is six pairs of digits with single colons between them. -/
def SixPairs (text : String) : Prop :=
  ∃ pairs : List (List Char), pairs.length = 6 ∧
    (∀ pair ∈ pairs, pair.length = 2 ∧ ∀ c ∈ pair, ∃ value, Digit c value) ∧
    text.toList = [':'].intercalate pairs

private theorem Pair.shape {pair : List Char} {octet : UInt8} (digits : Pair pair octet) :
    pair.length = 2 ∧ ∀ c ∈ pair, ∃ value, Digit c value := by
  obtain ⟨left, right, -⟩ := digits
  refine ⟨rfl, fun c member => ?_⟩
  simp only [List.mem_cons, List.not_mem_nil, or_false] at member
  rcases member with rfl | rfl
  · exact ⟨_, left⟩
  · exact ⟨_, right⟩

private theorem shape_spelled {pairs : List (List Char)} {octets : Bytes}
    (spelled : List.Forall₂ Pair pairs octets) :
    ∀ pair ∈ pairs, pair.length = 2 ∧ ∀ c ∈ pair, ∃ value, Digit c value := by
  induction spelled with
  | nil => simp
  | cons first _ ih => exact List.forall_mem_cons.mpr ⟨first.shape, ih⟩

private theorem exists_pair {pair : List Char} (two : pair.length = 2)
    (digits : ∀ c ∈ pair, ∃ value, Digit c value) : ∃ octet, Pair pair octet := by
  obtain ⟨high, low, rfl⟩ := List.length_eq_two.mp two
  obtain ⟨h, left⟩ := digits high (by simp)
  obtain ⟨l, right⟩ := digits low (by simp)
  exact ⟨_, pair_of_values left right⟩

private theorem exists_octets {pairs : List (List Char)}
    (shaped : ∀ pair ∈ pairs, pair.length = 2 ∧ ∀ c ∈ pair, ∃ value, Digit c value) :
    ∃ octets, List.Forall₂ Pair pairs octets := by
  induction pairs with
  | nil => exact ⟨[], .nil⟩
  | cons pair pairs ih =>
    obtain ⟨⟨two, digits⟩, later⟩ := List.forall_mem_cons.mp shaped
    obtain ⟨octet, first⟩ := exists_pair two digits
    obtain ⟨octets, rest⟩ := ih later
    exact ⟨octet :: octets, .cons first rest⟩

/-- A text of that shape spells an address, whichever digits are in it. -/
theorem exists_spells_iff : (∃ a, Spells text a) ↔ SixPairs text := by
  constructor
  · rintro ⟨a, pairs, spelled, same⟩
    exact ⟨pairs, spelled.length_eq.trans a.length_eq, shape_spelled spelled, same⟩
  · rintro ⟨pairs, six, shaped, same⟩
    obtain ⟨octets, spelled⟩ := exists_octets shaped
    exact ⟨⟨octets, spelled.length_eq.symm.trans six⟩, pairs, spelled, same⟩

/-- A text spells one address only. -/
theorem Spells.unique {b : Address} (spells : Spells text a) (spells' : Spells text b) : a = b :=
  Option.some.inj ((parse?_iff.mpr spells).symm.trans (parse?_iff.mpr spells'))

theorem parse_ok_iff : parse text = .ok a ↔ Spells text a := by
  rw [← parse?_iff, parse]
  cases parse? text with
  | none => simp
  | some found => simp

/-- Any text of another shape is refused, and the error names this text. -/
private theorem parse_error_iff {e : TransportError} :
    parse text = .error e ↔ ¬SixPairs text ∧ e = .invalidAddress text := by
  have refused : parse? text = none ↔ ¬SixPairs text := by
    rw [← exists_spells_iff, Option.eq_none_iff_forall_ne_some, not_exists]
    exact forall_congr' fun a => not_congr parse?_iff
  rw [← refused, parse]
  cases parse? text with
  | none => simp [eq_comm]
  | some found => simp

/-- An address is read from its own text. -/
theorem parse_text (a : Address) : parse a.text = .ok a := parse_ok_iff.mpr a.text_spells

end Address

open Address (Spells SixPairs)

/-- What a text means as a destination. -/
inductive Meant (text : String) : Except TransportError Destination → Prop
  | nothing (empty : text = "") : Meant text (.error (.invalidAddress ""))
  | address {a : Address} (spells : Spells text a) : Meant text (.ok (.address a))
  | name (given : text ≠ "") (other : ¬SixPairs text) : Meant text (.ok (.name text))

private theorem Destination.parse_meant (text : String) : Meant text (Destination.parse text) := by
  unfold Destination.parse
  split
  next empty => exact .nothing (String.isEmpty_iff.mp empty)
  next given =>
    split
    next a read => exact .address (Address.parse?_iff.mp read)
    next unread =>
      -- A text that was not read as an address does not have the shape of one.
      refine .name (fun empty => given (String.isEmpty_iff.mpr empty)) ?_
      rw [← Address.exists_spells_iff]
      rintro ⟨a, spells⟩
      cases unread.symm.trans (Address.parse?_iff.mpr spells)

private theorem not_sixPairs_empty : ¬SixPairs "" := by
  rw [← Address.exists_spells_iff]
  rintro ⟨a, spells⟩
  have length := spells.length
  cases length

/-- A text means one thing only. -/
theorem Meant.unique {text : String} {one other : Except TransportError Destination}
    (meant : Meant text one) (meant' : Meant text other) : one = other := by
  have spelled {a : Address} (spells : Spells text a) : SixPairs text :=
    Address.exists_spells_iff.mp ⟨a, spells⟩
  -- The empty text spells nothing, so each of the three cases excludes the others.
  cases meant with
  | nothing empty =>
    subst empty
    cases meant' with
    | nothing => rfl
    | address spells => exact absurd (spelled spells) not_sixPairs_empty
    | name given => exact absurd rfl given
  | address spells =>
    cases meant' with
    | nothing empty => exact absurd (empty ▸ spelled spells) not_sixPairs_empty
    | address spells' => rw [spells.unique spells']
    | name _ other => exact absurd (spelled spells) other
  | name given unspelled =>
    cases meant' with
    | nothing empty => exact absurd empty given
    | address spells => exact absurd (spelled spells) unspelled
    | name => rfl

/-- A destination is read as what its text means, and as nothing else. -/
theorem Destination.parse_iff {text : String} {meaning : Except TransportError Destination} :
    Destination.parse text = meaning ↔ Meant text meaning := by
  constructor
  · rintro rfl
    exact Destination.parse_meant text
  · exact (Destination.parse_meant text).unique

/-! ### Connecting -/

namespace Link

variable {text : String} {a : Address} {config : Config} {host : Host}

private theorem connect_address (spells : Spells text a) :
    (connect text config).run host = (connectAddress a config).run host := by
  have parsed : Destination.parse text = .ok (.address a) :=
    Destination.parse_iff.mpr (.address spells)
  have located : (locate text config).run host = (.ok a, host) := by
    have given : (Act.ofExcept (Destination.parse text)).run host =
        (.ok (.address a), host) := by
      rw [parsed]
      rfl
    exact Act.bind_run_ok given _
  exact Act.bind_run_ok located _

/-- An empty destination is refused before anything is asked of the host. -/
theorem connect_empty (config : Config) (host : Host) :
    (connect "" config).run host = (.error (.invalidAddress ""), host) := rfl

/-- Connecting to an address makes no call about an adapter. -/
theorem Streamed.not_onAdapter {outcome : Except TransportError Link} {after : Host}
    (streamed : Streamed a config host (outcome, after)) :
    Host.Since (fun call => ¬call.OnAdapter) host after := by
  have start := Host.Since.refl (fun call => ¬call.OnAdapter) host
  cases streamed with
  | refused added => exact start.add added (by simp [Call.OnAdapter])
  | unreached added => exact start.add added (by simp [Call.OnAdapter])
  | connected added => exact start.add added (by simp [Call.OnAdapter])

end Link

/-! ### The whole -/

/-- A text is read as an address exactly if it is six pairs of digits; the octets are the values of
the pairs, and the text of the address is the same in capitals. Nothing else is an address, and it
is a name unless it is empty. Only a name needs an adapter. -/
theorem addresses_recognized (text : String) :
    ((∃ a, Address.parse text = .ok a) ↔ SixPairs text) ∧
    (∀ a, Address.parse text = .ok a ↔ Spells text a) ∧
    (∀ a, Spells text a → a.text = text.toUpper) ∧
    (∀ a : Address, Address.parse a.text = .ok a) ∧
    (∀ e, Address.parse text = .error e ↔ ¬SixPairs text ∧ e = .invalidAddress text) ∧
    Address.parseParts? text = (Address.parse text).toOption ∧
    (∀ meaning, Destination.parse text = meaning ↔ Meant text meaning) ∧
    ∀ (config : Config) (host : Host),
      (∀ a, Spells text a →
        Link.Streamed a config host ((Link.connect text config).run host) ∧
        Host.Since (fun call => ¬call.OnAdapter) host ((Link.connect text config).run host).2) ∧
      (text = "" → (Link.connect text config).run host = (.error (.invalidAddress ""), host)) := by
  refine ⟨?_, fun _ => Address.parse_ok_iff, fun _ => Spells.toUpper, Address.parse_text,
    fun _ => Address.parse_error_iff, ?_, fun _ => Destination.parse_iff, fun config host => ?_⟩
  · rw [← Address.exists_spells_iff]
    exact exists_congr fun _ => Address.parse_ok_iff
  · rw [Address.parseParts?_eq, Address.parse]
    cases Address.parse? text with
    | none => rfl
    | some => rfl
  · refine ⟨fun a spells => ?_, ?_⟩
    · rw [Link.connect_address spells]
      have streamed := Link.connectAddress_streamed a config host
      exact ⟨streamed, streamed.not_onAdapter⟩
    · rintro rfl
      exact Link.connect_empty config host

/-- Digits of both cases are read; a text of seventeen bytes whose last part is one character is a
name. -/
theorem addresses_recognized_cases :
    (∃ a, a.octets = [0x00, 0x16, 0x53, 0xAB, 0x5C, 0x6F] ∧
      Spells "00:16:53:aB:5C:6f" a ∧ a.text = "00:16:53:AB:5C:6F" ∧
      Link.Streamed a {} (Host.ofScript {})
        ((Link.connect "00:16:53:aB:5C:6f" {}).run (Host.ofScript {}))) ∧
    ((Text.Utf8.encode "00:16:53:12:5C:é").length = 17 ∧ ¬SixPairs "00:16:53:12:5C:é" ∧
      Meant "00:16:53:12:5C:é" (.ok (.name "00:16:53:12:5C:é"))) := by
  constructor
  · let a : Address := ⟨[0x00, 0x16, 0x53, 0xAB, 0x5C, 0x6F], rfl⟩
    have read : Address.parse "00:16:53:aB:5C:6f" = .ok a := rfl
    -- The capitals of a text are computed from the list of its characters.
    have capitals : "00:16:53:aB:5C:6f".toUpper = "00:16:53:AB:5C:6F" := by
      rw [← String.toList_inj, String.toUpper, String.toList_map]
      decide
    obtain ⟨-, spelled, upper, -, -, -, -, connected⟩ := addresses_recognized "00:16:53:aB:5C:6f"
    have spells : Spells "00:16:53:aB:5C:6f" a := (spelled a).mp read
    exact ⟨a, rfl, spells, (upper a spells).trans capitals,
      ((connected {} (Host.ofScript {})).1 a spells).1⟩
  · obtain ⟨-, -, -, -, refused, -, meant, -⟩ := addresses_recognized "00:16:53:12:5C:é"
    exact ⟨by decide, ((refused (.invalidAddress _)).mp rfl).1, (meant _).mp rfl⟩

end Radio
end BrickControl
