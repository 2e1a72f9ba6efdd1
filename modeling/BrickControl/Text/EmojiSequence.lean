import BrickControl.Text.ColumnTables

/-!
# Emoji sequences

Emoji that are drawn as one picture: a person with a skin tone, two letters that make a flag,
several emoji with joiners between them. A text is measured from its end, so a sequence is found at
its last character and grows to the left: `EmojiSequence.ofLast?` says what a character may end,
`EmojiSequence.before?` what a character adds in front of it.
-/
namespace BrickControl.Text

/-- The five skin tones. -/
def skinTones : CodePoints := [(0x1F3FB, 0x1F3FF)]

/-- The letters that make flags in pairs. -/
def regionLetters : CodePoints := [(0x1F1E6, 0x1F1FF)]

/-- The tag characters that stand for small letters. -/
def tagLetters : CodePoints := [(0xE0061, 0xE007A)]

/-- The tag characters that stand for digits. -/
def tagDigits : CodePoints := [(0xE0030, 0xE0039)]

/-- The end of an emoji sequence. -/
inductive EmojiSequence where
  /-- A character shown as emoji. -/
  | shown
  /-- A skin tone. -/
  | skinTone
  /-- A single region letter. -/
  | region
  /-- Two region letters or more. -/
  | regions
  /-- A zero width joiner in front of an emoji. -/
  | joined
  /-- The frame of a keycap in front of a joined emoji. -/
  | keycap
  /-- A single region letter in front of a joined emoji. -/
  | joinedRegion
  /-- Several region letters in front of a joined emoji, and whether their number is even. -/
  | joinedRegions (even : Bool)
  /-- The tags of a subdivision flag in front of a joined emoji: so many letters at the end, with so
  many digits before them. -/
  | tags (letters digits : Nat)
  deriving DecidableEq, Repr

namespace EmojiSequence

/-- The columns of a character that may end an emoji sequence, and the sequence. -/
def ofLast? (c : Char) : Option (Int × EmojiSequence) :=
  if skinTones.has c then some (2, .skinTone)
  else if regionLetters.has c then some (1, .region)
  else if emojiPresentation.has c then some (2, .shown)
  else none

/-- What a character adds in front of a joined emoji: another emoji is drawn together with it. -/
def beforeJoined? (c : Char) : Option (Int × EmojiSequence) :=
  if c.toNat = 0x20E3 then some (0, .keycap)
  else if c.toNat = 0xE007F then some (0, .tags 0 0)
  else if regionLetters.has c then some (1, .joinedRegion)
  else if skinTones.has c then some (0, .skinTone)
  else if emojiPresentation.has c then some (0, .shown)
  else none

/-- What a character adds in front of the tags of a flag: three to six letters, or three digits with
at most four letters behind them, make a flag of the black one. -/
def beforeTags? (letters digits : Nat) (c : Char) : Option (Int × EmojiSequence) :=
  if tagLetters.has c && digits = 0 && letters < 6 then some (0, .tags (letters + 1) 0)
  else if tagDigits.has c && letters ≤ 4 && digits < 3 then some (0, .tags letters (digits + 1))
  else if c.toNat = 0x1F3F4 && (digits = 3 || (digits = 0 && 3 ≤ letters)) then some (0, .shown)
  else none

/-- The columns that a character adds in front of an emoji sequence, and the sequence that they
make; nothing when the character is no part of it. Region letters are paired from the first one on,
so the columns of an emoji behind a flag are counted when the number of letters turns odd. -/
def before? (sequence : EmojiSequence) (c : Char) : Option (Int × EmojiSequence) :=
  let isJoiner := c.toNat = 0x200D
  let isLetter := regionLetters.has c
  match sequence with
  | .shown => if isJoiner then some (0, .joined) else none
  | .skinTone =>
    if isJoiner then some (0, .joined)
    else if emojiModifierBase.has c then some (0, .shown)
    else none
  | .region => if isLetter then some (1, .regions) else none
  | .regions =>
    if isJoiner then some (0, .joined) else if isLetter then some (1, .regions) else none
  | .joined => beforeJoined? c
  | .keycap => none
  | .joinedRegion => if isLetter then some (-1, .joinedRegions true) else none
  | .joinedRegions even =>
    if isJoiner then some (0, .joined)
    else if isLetter then some (if even then 3 else -1, .joinedRegions !even)
    else none
  | .tags letters digits => beforeTags? letters digits c

end EmojiSequence

end BrickControl.Text
