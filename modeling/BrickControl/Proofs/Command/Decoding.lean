import BrickControl.Proofs.Command.Limits
import BrickControl.Proofs.Text.Utf8
import BrickControl.Reply

/-!
# Reading requests back

A decoder for requests, as the brick would need it. It is put together from readers of single
fields, and so is the proof that it reads every accepted request back: a reader `Yields` a value
from the bytes of this value, whatever follows them, and this passes from the parts to the whole.
-/
namespace BrickControl

namespace FieldReader

variable {α β : Type}

/-- The reader takes exactly these bytes off the front and makes this value of them. -/
def Yields (reader : FieldReader α) (bytes : Bytes) (value : α) : Prop :=
  ∀ rest, reader (bytes ++ rest) = some (value, rest)

theorem yields_pure (value : α) : Yields (pure value) [] value := fun _ => rfl

/-- The second reader starts behind the bytes of the first one, and both values come from their own
bytes. -/
theorem Yields.bind {reader : FieldReader α} {next : α → FieldReader β} {front back : Bytes}
    {a : α} {b : β} (first : Yields reader front a) (second : Yields (next a) back b) :
    Yields (reader >>= next) (front ++ back) b := by
  intro rest
  show (reader (front ++ back ++ rest)).bind (fun found => next found.1 found.2) = some (b, rest)
  rw [List.append_assoc, first (back ++ rest)]
  exact second rest

theorem Yields.map {reader : FieldReader α} {bytes : Bytes} {a : α} (f : α → β)
    (yields : Yields reader bytes a) : Yields (do return f (← reader)) bytes (f a) := by
  have both : Yields (do return f (← reader)) (bytes ++ []) (f a) :=
    yields.bind (yields_pure (f a))
  rwa [List.append_nil] at both

/-! ### Fields -/

theorem yields_byte (b : UInt8) : Yields byte [b] b := fun _ => rfl

/-- A number is read back where the bytes are enough to hold it. -/
theorem yields_number (width n : Nat) (small : n < Nat.pow 256 width) :
    Yields (number width) (Bytes.littleEndian width n) n := by
  intro rest
  have enough : width ≤ (Bytes.littleEndian width n ++ rest).length := by
    rw [List.length_append, Bytes.length_littleEndian]
    omega
  have front : (Bytes.littleEndian width n ++ rest).take width = Bytes.littleEndian width n :=
    List.take_left' (Bytes.length_littleEndian width n)
  have behind : (Bytes.littleEndian width n ++ rest).drop width = rest :=
    List.drop_left' (Bytes.length_littleEndian width n)
  -- The value of the bytes is the number up to what so many bytes can hold.
  rw [number, if_pos enough, front, behind, Bytes.value_littleEndian, Nat.mod_eq_of_lt small]

private theorem yields_flag (b : Bool) : Yields flag (Field.flag b).bytes b := by
  have read := (yields_byte (if b then 1 else 0)).map fun n => decide (n ≠ 0)
  cases b <;> exact read

theorem yields_signed (n : Int8) : Yields signed (Field.signed n).bytes n :=
  (yields_byte n.toUInt8).map UInt8.toInt8

theorem yields_word (w : UInt16) : Yields word (Field.word w).bytes w := by
  have read := (yields_number 2 w.toNat w.toNat_lt).map UInt16.ofNat
  rwa [UInt16.ofNat_toNat] at read

theorem yields_long (w : UInt32) : Yields long (Field.long w).bytes w := by
  have read := (yields_number 4 w.toNat w.toNat_lt).map UInt32.ofNat
  rwa [UInt32.ofNat_toNat] at read

def outputPort : FieldReader OutputPort := do
  match OutputPort.ofByte (← byte) with
  | .ok port => return port
  | .error _ => failure

def inputPort : FieldReader InputPort := do
  match InputPort.ofByte (← byte) with
  | .ok port => return port
  | .error _ => failure

def data (size : Nat) : FieldReader Bytes := fun bytes =>
  if size ≤ bytes.length then some (bytes.take size, bytes.drop size) else none

/-- A text that ends at the first zero byte. -/
def text : FieldReader String := fun bytes =>
  match bytes.dropWhile (· ≠ 0) with
  | [] => none
  | _ :: rest => (Text.Utf8.decode? (bytes.takeWhile (· ≠ 0))).map (·, rest)

private theorem yields_outputPort (port : OutputPort) : Yields outputPort [port.byte] port := by
  intro rest
  cases port <;> rfl

private theorem yields_inputPort (port : InputPort) : Yields inputPort [port.byte] port := by
  intro rest
  cases port <;> rfl

private theorem yields_data (bytes : Bytes) : Yields (data bytes.length) bytes bytes := by
  intro rest
  rw [data, if_pos (by rw [List.length_append]; omega), List.take_left, List.drop_left]

/-- A text without a zero byte is read up to the zero byte that ends it. -/
theorem yields_text (name : String) (clean : 0 ∉ Text.Utf8.encode name) :
    Yields text (Text.Utf8.encode name ++ [0]) name := by
  intro rest
  have letters : ∀ b ∈ Text.Utf8.encode name, decide (b ≠ 0) = true := by
    intro b member
    exact decide_eq_true fun zero => clean (zero ▸ member)
  -- No byte of the name ends the search, and the zero byte behind it does.
  have front : (Text.Utf8.encode name ++ 0 :: rest).takeWhile (· ≠ 0) = Text.Utf8.encode name := by
    rw [List.takeWhile_append_of_pos letters, List.takeWhile_cons_of_neg (by simp), List.append_nil]
  have behind : (Text.Utf8.encode name ++ 0 :: rest).dropWhile (· ≠ 0) = 0 :: rest := by
    rw [List.dropWhile_append_of_pos letters, List.dropWhile_cons_of_neg (by simp)]
  rw [List.append_assoc, List.singleton_append]
  simp only [text, front, behind, Text.Utf8.decode?_encode, Option.map_some]

end FieldReader

namespace Command
open FieldReader

/-- The arguments of a command, from the payload of its request. -/
def readArguments : Opcode → FieldReader Command
  | .startProgram => return .startProgram (← text)
  | .stopProgram => return .stopProgram
  | .playSoundFile => return .playSoundFile (← flag) (← text)
  | .playTone => return .playTone (← word) (← word)
  | .setOutputState => do
    let port ← outputPort
    let power ← signed
    let mode ← byte
    let regulation ← byte
    let turnRatio ← signed
    let runState ← byte
    let tachoLimit ← long
    return .setOutputState {
      port, power, mode := ⟨mode⟩, regulation := ⟨regulation⟩, turnRatio, runState := ⟨runState⟩,
      tachoLimit }
  | .setInputMode => return .setInputMode (← inputPort) ⟨← byte⟩ ⟨← byte⟩
  | .getOutputState => return .getOutputState (← outputPort)
  | .getInputValues => return .getInputValues (← inputPort)
  | .resetInputScaledValue => return .resetInputScaledValue (← inputPort)
  | .messageWrite => do
    let inbox ← byte
    let size ← byte
    return .messageWrite inbox (← data size.toNat)
  | .resetMotorPosition => return .resetMotorPosition (← outputPort) (← flag)
  | .getBatteryLevel => return .getBatteryLevel
  | .stopSoundPlayback => return .stopSoundPlayback
  | .keepAlive => return .keepAlive
  | .lsGetStatus => return .lsGetStatus (← inputPort)
  | .lsWrite => do
    let port ← inputPort
    let size ← byte
    let replyLength ← byte
    return .lsWrite port (← data size.toNat) replyLength
  | .lsRead => return .lsRead (← inputPort)
  | .getCurrentProgramName => return .getCurrentProgramName
  | .messageRead => return .messageRead (← byte) (← byte) (← flag)

/-- The command of a request, if it is sent in its mode and nothing is behind its arguments. -/
def ofRequest? : Bytes → Option Command
  | control :: code :: payload =>
    match Opcode.ofByte? code with
    | some op =>
      if control = op.replyMode.byte then
        match readArguments op payload with
        | some (command, []) => some command
        | _ => none
      else none
    | none => none
  | _ => none

/-- The command that the brick performs: power, turn ratio and tone are in their range. -/
def clamped : Command → Command
  | .playTone frequency duration => .playTone (clampTone frequency) duration
  | .setOutputState state =>
    .setOutputState { state with
      power := clampPower state.power, turnRatio := clampPower state.turnRatio }
  | command => command

/-- Data behind its own length is read whole, where the length fits its byte. -/
theorem yields_sized (bytes : Bytes) (short : bytes.length < 256) :
    Yields (data (UInt8.ofNat bytes.length).toNat) bytes bytes := by
  rw [UInt8.toNat_ofNat_of_lt' short]
  exact yields_data bytes

private theorem readArguments_fields (command : Command) (accepted : command.check = .ok ()) :
    Yields (readArguments command.opcode) (command.fields.flatMap Field.bytes) command.clamped := by
  cases command with
  | startProgram name =>
    have clean := ((checkFilename_ok_iff name).mp accepted).1
    exact (yields_text name clean).map startProgram
  | playSoundFile looped name =>
    have clean := ((checkFilename_ok_iff name).mp accepted).1
    exact (yields_flag looped).bind ((yields_text name clean).map (playSoundFile looped))
  | playTone frequency duration =>
    exact (yields_word (clampTone frequency)).bind ((yields_word duration).bind (yields_pure _))
  | setOutputState state =>
    exact (yields_outputPort state.port).bind <| (yields_signed (clampPower state.power)).bind <|
      (yields_byte state.mode.bits).bind <| (yields_byte state.regulation.bits).bind <|
      (yields_signed (clampPower state.turnRatio)).bind <|
      (yields_byte state.runState.bits).bind <| (yields_long state.tachoLimit).bind <|
      yields_pure _
  | setInputMode port type mode =>
    exact (yields_inputPort port).bind ((yields_byte type.bits).bind
      ((yields_byte mode.bits).bind (yields_pure _)))
  -- The byte in front of the data holds its length, since longer data was refused.
  | messageWrite inbox data =>
    obtain ⟨_, short⟩ := (check_messageWrite_iff inbox data).mp accepted
    have sized := yields_sized data (Nat.lt_of_le_of_lt short (by decide))
    exact (yields_byte inbox).bind ((yields_byte _).bind (sized.bind (yields_pure _)))
  | resetMotorPosition port relative =>
    exact (yields_outputPort port).bind ((yields_flag relative).bind (yields_pure _))
  | lsWrite port data replyLength =>
    obtain ⟨short, _⟩ := (check_lsWrite_iff port data replyLength).mp accepted
    have sized := yields_sized data (Nat.lt_of_le_of_lt short (by decide))
    exact (yields_inputPort port).bind ((yields_byte _).bind ((yields_byte replyLength).bind
      (sized.bind (yields_pure _))))
  | messageRead remote inbox remove =>
    exact (yields_byte remote).bind ((yields_byte inbox).bind
      ((yields_flag remove).bind (yields_pure _)))
  | getOutputState port => exact (yields_outputPort port).bind (yields_pure _)
  | getInputValues port => exact (yields_inputPort port).bind (yields_pure _)
  | resetInputScaledValue port => exact (yields_inputPort port).bind (yields_pure _)
  | lsGetStatus port => exact (yields_inputPort port).bind (yields_pure _)
  | lsRead port => exact (yields_inputPort port).bind (yields_pure _)
  | stopProgram => exact yields_pure _
  | getBatteryLevel => exact yields_pure _
  | stopSoundPlayback => exact yields_pure _
  | keepAlive => exact yields_pure _
  | getCurrentProgramName => exact yields_pure _

/-- An accepted request is read back as the command that the brick performs. -/
theorem ofRequest?_request (command : Command) (accepted : command.check = .ok ()) :
    ofRequest? command.request = some command.clamped := by
  have read := readArguments_fields command accepted []
  -- Nothing is left behind the arguments.
  rw [List.append_nil] at read
  simp only [ofRequest?, request, Opcode.ofByte?_byte, if_true, read]

end Command
end BrickControl
