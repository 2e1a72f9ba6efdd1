import BrickControl.Proofs.CommandLine.Performing
import BrickControl.Proofs.Report.Preview
import BrickControl.Proofs.Session.Transfers

/-!
# Mailbox messages

A text goes out as its bytes and, unless it is sent raw, a zero byte behind them. A message that
fits into a mailbox is sent; a longer one is refused before anything goes out, so that no command is
refused for its length. What comes back is cut to the length that the brick reports, and shown
without one zero byte at its end. So a text is shown as it was sent, raw or not, if it does not hold
the character of number zero, and only then: this character is never shown.
-/
namespace BrickControl

open Text.Utf8

namespace CommandLine

variable {text : String} {raw : Bool}

private theorem body_ended (clean : Char.ofNat 0 ∉ text.toList) :
    Report.body (ended text raw) = encode text := by
  have whole : 0 ∉ encode text := fun zero => clean (zero_mem_encode.mp zero)
  -- Sent raw or not, what is left to read are the bytes of the text.
  cases raw with
  | true =>
    rw [ended, if_pos rfl, List.append_nil]
    exact Report.body_open whole
  | false => exact Report.body_ended (encode text)

/-- A message is shown as the text that was sent if this has no character of number zero, and only
then. -/
theorem preview_ended_iff :
    Report.preview (ended text raw) = text ↔ Char.ofNat 0 ∉ text.toList := by
  constructor
  · intro shown
    have clean := Report.zero_not_mem_preview (ended text raw)
    rwa [shown] at clean
  · intro clean
    exact Report.preview_of_text (body_ended clean).symm clean

/-! ### Sending and reading -/

private theorem length_encodeMessage {data : Bytes} (encoded : encodeMessage text raw = .ok data) :
    data.length ≤ 59 := by
  by_cases fits : (ended text raw).length ≤ Limits.messageLength
  · rw [encodeMessage_fits fits] at encoded
    cases encoded
    exact fits
  · obtain ⟨message, refused⟩ := encodeMessage_long (Nat.not_le.mp fits)
    rw [refused] at encoded
    cases encoded

/-- What is encoded fits, so the command has no reason to refuse it for its length. -/
private theorem check_encoded (inbox : UInt8) {sent : Bytes}
    (encoded : encodeMessage text raw = .ok sent) :
    (Command.messageWrite inbox sent).check ≠
      .error (.invalidArgument "message longer than 59 bytes") := by
  intro refused
  have reason := (Command.check_error_iff _ _).mp refused
  -- Of the two reasons to refuse a message only one is its length.
  generalize told : CommandError.invalidArgument "message longer than 59 bytes" = e at reason
  cases reason with
  | inbox bad => exact absurd told (by simp)
  | message good long => exact absurd long (Nat.not_lt.mpr (length_encodeMessage encoded))

/-- The payload of a reply that brings a message, behind the number of the mailbox. -/
def messageField (data : Bytes) : Bytes :=
  UInt8.ofNat data.length :: (data ++ List.replicate (59 - data.length) 0)

/-- The field has one size for all messages that fit. -/
theorem length_messageField {data : Bytes} (fits : data.length ≤ 59) :
    (messageField data).length = 60 := by
  simp only [messageField, List.length_cons, List.length_append, List.length_replicate]
  omega

/-- A message is copied whole to the front of a buffer that has room for it. -/
theorem fill_messageField {data buffer : Bytes} (fits : data.length ≤ 59)
    (room : buffer.length = 59) :
    ∃ held, (⟨UInt8.ofNat data.length, data ++ List.replicate (59 - data.length) 0⟩ :
        Transfer).fill buffer = ⟨.ok data.length, held⟩ ∧ held.take data.length = data := by
  have reported : (UInt8.ofNat data.length).toNat = data.length := toNat_byte (by omega)
  have area : (data ++ List.replicate (59 - data.length) 0).length = 59 :=
    Nat.succ_inj.mp (length_messageField fits)
  simp only [Transfer.fill, reported, area, room, Nat.min_self, if_pos fits, List.take_left]
  exact ⟨_, rfl, Bytes.take_overlay rfl (by omega)⟩

private theorem request_messageWrite (inbox : UInt8) (data : Bytes) :
    (Command.messageWrite inbox data).request =
      0x80 :: 0x09 :: inbox :: UInt8.ofNat data.length :: data := by
  simp only [Command.request, Command.fields, List.flatMap_cons, List.flatMap_nil, Field.bytes,
    List.append_nil]
  rfl

variable {σ : Type} [Backend σ] {start after : Connection σ}

/-- A message that fits is written in one request, and what was written is reported. -/
private theorem report_sendMessage {inbox : UInt8} (known : inbox ≤ 9)
    (fits : (ended text raw).length ≤ 59)
    (wrote : Connection.write (0x80 :: 0x09 :: inbox :: UInt8.ofNat (ended text raw).length ::
      ended text raw) start = (.ok ((ended text raw).length + 4), after)) :
    (BrickCommand.sendMessage inbox raw text).report start =
      (.ok (.acknowledgement "send-message" (toString (ended text raw).length ++
        " bytes to mailbox " ++ toString inbox.toNat)), after) := by
  have built : (Act.ofExcept (encodeMessage text raw) : Act (Connection σ) Failure _).run start =
      (.ok (ended text raw), start) := congrArg (·, start) (encodeMessage_fits fits)
  -- Both limits of a message are met, so the request is built.
  have accepted : (Command.messageWrite inbox (ended text raw)).check = .ok () := by
    have within : ¬ inbox > Limits.lastInbox := UInt8.not_lt.mpr known
    simp only [Command.check, if_neg within]
    exact if_neg (Nat.not_lt.mpr fits)
  rw [← request_messageWrite] at wrote
  have size : (Command.messageWrite inbox (ended text raw)).request.length =
      (ended text raw).length + 4 := by
    rw [request_messageWrite]
    rfl
  rw [← size] at wrote
  have sent : Connection.perform (.messageWrite inbox (ended text raw)) start = (.ok (), after) :=
    Connection.perform_silent accepted rfl wrote []
  exact (Act.bind_run_ok built _).trans (performing_run_ok sent _)

private theorem report_sendMessage_long (inbox : UInt8) (start : Connection σ)
    (much : 59 < (ended text raw).length) : ∃ message,
      (BrickCommand.sendMessage inbox raw text).report start = (.error ⟨64, message⟩, start) := by
  obtain ⟨message, refused⟩ := encodeMessage_long much
  refine ⟨message, report_refused ?_ start⟩
  simp only [BrickCommand.operation, refused]
  rfl

/-- A message that is read comes back as the bytes it has, without what fills up its field. -/
private theorem report_readMessage {remote inbox : UInt8} {keep : Bool} {box : UInt8} {data : Bytes}
    (fits : data.length ≤ 59)
    (answered : Connection.Fulfilled (.messageRead remote inbox (!keep))
      (box :: messageField data) start after) :
    (BrickCommand.readMessage remote inbox keep).report start =
      (.ok (.message remote inbox data), after) := by
  have room : (List.replicate Limits.messageLength (0 : UInt8)).length = 59 := List.length_replicate
  obtain ⟨held, filled, front⟩ := fill_messageField fits room
  have read : Connection.messageRead remote inbox (!keep) (List.replicate Limits.messageLength 0)
      start = (⟨.ok data.length, held⟩, after) := by
    rw [← filled]
    exact Connection.fillFrom_ok (Connection.perform_fulfilled answered)
  simp only [BrickCommand.report, readMailbox, read, front]

/-- A text is sent exactly if its bytes and, unless it is sent raw, its end fit into a mailbox:
these are the bytes of the message, and once they are written the link is as the write left it. A
longer text is refused before the link is used, and no message is refused for its length by the
command. What was sent comes back as the text, on a reply of any mailbox, whether or not it is kept
there. The text may hold any character but the one of number zero. -/
theorem messages_read_back (text : String) (raw : Bool) :
    let data := ended text raw
    (∀ inbox ≤ (9 : UInt8), ∀ start : Connection σ,
      (data.length ≤ 59 → ∃ after, Connection.write
        (0x80 :: 0x09 :: inbox :: UInt8.ofNat data.length :: data) start =
          (.ok (data.length + 4), after)) →
      ((∃ report, ((BrickCommand.sendMessage inbox raw text).report start).1 = .ok report) ↔
        data.length ≤ 59)) ∧
    (data.length ≤ 59 → encodeMessage text raw = .ok data ∧
      ∀ inbox ≤ (9 : UInt8), ∀ start after : Connection σ,
        Connection.write (0x80 :: 0x09 :: inbox :: UInt8.ofNat data.length :: data) start =
          (.ok (data.length + 4), after) →
        ∃ report, (BrickCommand.sendMessage inbox raw text).report start = (.ok report, after)) ∧
    (∀ inbox (start : Connection σ), 59 < data.length → ∃ message,
      (BrickCommand.sendMessage inbox raw text).report start = (.error ⟨64, message⟩, start)) ∧
    (∀ inbox sent, encodeMessage text raw = .ok sent →
      (Command.messageWrite inbox sent).check ≠
        .error (.invalidArgument "message longer than 59 bytes")) ∧
    (Char.ofNat 0 ∉ text.toList → data.length ≤ 59 →
      ∀ box, (0x02 :: 0x13 :: 0 :: box :: messageField data).length = 64 ∧
        ∀ remote inbox keep (start after : Connection σ),
          Connection.Fulfilled (.messageRead remote inbox (!keep)) (box :: messageField data)
            start after →
          ∃ report, (BrickCommand.readMessage remote inbox keep).report start =
              (.ok report, after) ∧
            report.members.lookup "length" = some (.number data.length) ∧
            report.members.lookup "text" = some (.text text) ∧
            report.fields.lookup "message" = some text) := by
  intro data
  refine ⟨?_, ?_, report_sendMessage_long, ?_, ?_⟩
  · intro inbox known start accepts
    constructor
    · rintro ⟨report, sent⟩
      -- A message that is too long would have been refused.
      refine Nat.not_lt.mp fun much => ?_
      obtain ⟨message, refused⟩ := report_sendMessage_long inbox start much
      rw [refused] at sent
      cases sent
    · intro fits
      obtain ⟨after, wrote⟩ := accepts fits
      exact ⟨_, congrArg Prod.fst (report_sendMessage known fits wrote)⟩
  · intro fits
    exact ⟨encodeMessage_fits fits, fun inbox known start after wrote =>
      ⟨_, report_sendMessage known fits wrote⟩⟩
  · exact fun inbox sent encoded => check_encoded inbox encoded
  · intro clean fits box
    refine ⟨?_, ?_⟩
    · simp only [List.length_cons, length_messageField fits]
    · intro remote inbox keep start after answered
      have shown : Report.preview data = text := preview_ended_iff.mpr clean
      refine ⟨_, report_readMessage fits answered, rfl, ?_, ?_⟩
      · exact congrArg (fun shown => some (Report.JsonValue.text shown)) shown
      · exact congrArg some shown

/-- A text that fills a mailbox raw has no room for an end; with one character less it has. -/
theorem messages_read_back_full :
    let full := String.ofList ('a' :: 'é' :: List.replicate 14 '𝄞')
    let shorter := String.ofList ('é' :: List.replicate 14 '𝄞')
    let start : Connection Rehearsal := .overMessages { supply := .packets [] }
    let answered (data : Bytes) : Connection Rehearsal :=
      .overMessages { supply := .packets [0x02 :: 0x13 :: 0 :: 3 :: messageField data] }
    (ended full true).length = 59 ∧ (ended shorter false).length = 59 ∧
    encodeMessage full true = .ok (ended full true) ∧
    (∃ report, ((BrickCommand.sendMessage 3 true full).report start).1 = .ok report) ∧
    (∃ message, (BrickCommand.sendMessage 3 false full).report start =
      (.error ⟨64, message⟩, start)) ∧
    (∃ report, ((BrickCommand.readMessage 13 3 true).report (answered (ended full true))).1 =
      .ok report ∧ report.members.lookup "text" = some (.text full)) ∧
    ∃ report, ((BrickCommand.readMessage 13 3 false).report (answered (ended shorter false))).1 =
      .ok report ∧ report.members.lookup "text" = some (.text shorter) := by
  intro full shorter start answered
  have fulfilled (keep : Bool) {data : Bytes} (fits : data.length = 59) :
      ∃ after, Connection.Fulfilled (.messageRead 13 3 (!keep)) (3 :: messageField data)
        (answered data) after :=
    Connection.fulfilled_rehearsed rfl rfl (by simp [length_messageField (Nat.le_of_eq fits)])
  have size : (ended full true).length = 59 := by decide
  have size' : (ended shorter false).length = 59 := by decide
  obtain ⟨sends, encodes, _, _, reads⟩ := messages_read_back (σ := Rehearsal) full true
  obtain ⟨_, _, refuses, _, _⟩ := messages_read_back (σ := Rehearsal) full false
  obtain ⟨_, _, _, _, reads'⟩ := messages_read_back (σ := Rehearsal) shorter false
  refine ⟨size, size', (encodes (Nat.le_of_eq size)).1, ?_, refuses 3 start (by decide), ?_, ?_⟩
  · exact (sends 3 (by decide) start fun _ => ⟨_, rfl⟩).mpr (Nat.le_of_eq size)
  · obtain ⟨after, answer⟩ := fulfilled true size
    obtain ⟨report, read, _, shown, _⟩ :=
      (reads (by decide) (Nat.le_of_eq size) 3).2 13 3 true _ after answer
    exact ⟨report, congrArg Prod.fst read, shown⟩
  · obtain ⟨after, answer⟩ := fulfilled false size'
    obtain ⟨report, read, _, shown, _⟩ :=
      (reads' (by decide) (Nat.le_of_eq size') 3).2 13 3 false _ after answer
    exact ⟨report, congrArg Prod.fst read, shown⟩

end CommandLine
end BrickControl
