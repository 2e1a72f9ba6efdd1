import BrickControl.Text.EmojiSequence
import BrickControl.Text.Ligature

/-!
# Display columns

How many columns of a terminal a text takes. Most characters take one, wide ones two, combining
ones none. Some sequences are drawn as one sign, so a text is measured from its end and each
character knows what stands to its right.
-/
namespace BrickControl.Text

/-- What stands to the right of a character, as far as its columns depend on it. -/
inductive RightSign where
  /-- Nothing that matters. -/
  | plain
  /-- A line feed. -/
  | lineFeed
  /-- The end of an emoji sequence. -/
  | emoji (sequence : EmojiSequence)
  /-- The end of a ligature. -/
  | ligature (letters : Ligature)
  /-- The Kirat Rai vowel e. -/
  | vowelE
  /-- The Kirat Rai vowel ai, also when it is written as two vowels e. -/
  | vowelAi
  deriving DecidableEq, Repr

/-- A character that chooses between the forms of the character before it. -/
inductive Selector where
  /-- Variation selector 16: shown as emoji. -/
  | emoji
  /-- Variation selector 15: shown as text. -/
  | text
  /-- Variation selector 2: a quotation mark as wide as an ideograph. -/
  | wide
  deriving DecidableEq, Repr

/-- Quotation marks with a wide form. -/
def quotationMarks : CodePoints := [(0x2018, 0x2019), (0x201C, 0x201D)]

/-- The block of enclosed ideographs, which are wide in both forms. -/
def enclosedIdeographs : CodePoints := [(0x1F200, 0x1F2FF)]

namespace Selector

/-- The selector that a character is. -/
def ofChar? (c : Char) : Option Selector :=
  if c.toNat = 0xFE0F then some .emoji
  else if c.toNat = 0xFE0E then some .text
  else if c.toNat = 0xFE01 then some .wide
  else none

/-- The columns of a character in the form that the selector asks for, if it has this form. An emoji
that is joined to the next one is drawn together with it. -/
def columns? (selector : Selector) (joined : Bool) (c : Char) : Option (Int × RightSign) :=
  match selector with
  | .emoji =>
    if emojiVariants.has c then some (if joined then 0 else 2, .emoji .shown) else none
  | .text =>
    if emojiVariants.has c && emojiPresentation.has c && !enclosedIdeographs.has c
    then some (1, .plain) else none
  | .wide => if quotationMarks.has c then some (2, .plain) else none

end Selector

namespace RightSign

/-- A joiner with an emoji behind it, also when the frame of a keycap stands between. -/
def isJoined (sign : RightSign) : Bool :=
  sign = .emoji .joined || sign = .emoji .keycap

/-- What is left of a sign when a selector comes before it: selectors are no part of a ligature, and
the one for emoji belongs to an emoji that is joined. -/
def behind (sign : RightSign) (selector : Selector) : RightSign :=
  match sign with
  | .ligature letters => .ligature letters
  | sign => if selector = .emoji && sign.isJoined then sign else .plain

/-- What is left of a sign when the selector before it chose nothing. -/
def afterVainSelector : RightSign → RightSign
  | .ligature letters => .ligature letters
  | _ => .plain

/-- The columns of a character that is no part of a sequence, and the sign that it is. Two Khmer
letters are written out as two and three others. -/
def ofLast (c : Char) : Int × RightSign :=
  if hasNoColumn c then (0, .plain)
  else if c.toNat = 0x17A4 then (2, .plain)
  else if c.toNat = 0x17D8 then (3, .plain)
  else if c.toNat = 0x16D67 then (1, .vowelE)
  else if c.toNat = 0x16D68 then (1, .vowelAi)
  else match EmojiSequence.ofLast? c with
    | some (columns, sequence) => (columns, .emoji sequence)
    | none =>
      (if twoColumns.has c then 2 else 1, ((Ligature.ofLast? c).map .ligature).getD .plain)

/-- What a Kirat Rai vowel sign adds in front of the vowel e: a sequence takes one column when it is
equivalent to a single sign. -/
def beforeVowelE? (c : Char) : Option (Int × RightSign) :=
  if c.toNat = 0x16D63 || c.toNat = 0x16D69 then some (0, .plain)
  else if c.toNat = 0x16D67 then some (0, .vowelAi)
  else if c.toNat = 0x16D68 then some (1, .vowelE)
  else none

/-- The columns that a character adds in front of a sign, if the two belong together. -/
def before? (sign : RightSign) (c : Char) : Option (Int × RightSign) :=
  match sign with
  | .plain | .lineFeed => none
  | .emoji sequence => (sequence.before? c).map fun (columns, rest) => (columns, .emoji rest)
  | .ligature letters =>
    (letters.before? c).map fun (columns, rest) => (columns, (rest.map .ligature).getD .plain)
  | .vowelE => beforeVowelE? c
  | .vowelAi => if c.toNat = 0x16D63 then some (0, .plain) else none

/-- The columns that a character adds in front of a sign, and the sign that it makes. A control
character takes a column like any other, but a line break of two characters takes one. -/
def before (sign : RightSign) (c : Char) : Int × RightSign :=
  if c = '\n' then (1, .lineFeed)
  else if c = '\r' && sign = .lineFeed then (0, .plain)
  else if c.toNat ≤ 0xA0 then (1, .plain)
  else (sign.before? c).getD (ofLast c)

end RightSign

/-- What a character sees to its right: a sign, and the selector in front of it. -/
structure RightContext where
  sign : RightSign
  selector : Option Selector
  deriving DecidableEq, Repr

/-- The columns that a character adds in front of its right context, and the context for the
character before it. -/
def columnsBefore (c : Char) (right : RightContext) : Int × RightContext :=
  match right.selector.bind (·.columns? right.sign.isJoined c) with
  | some (columns, sign) => (columns, ⟨sign, none⟩)
  | none =>
    let sign := if right.selector.isSome then right.sign.afterVainSelector else right.sign
    match Selector.ofChar? c with
    | some selector => (0, ⟨sign.behind selector, some selector⟩)
    | none =>
      let (columns, sign) := sign.before c
      (columns, ⟨sign, none⟩)

/-- The columns of a character list, and the context it makes for a character before it. -/
def measure : List Char → Int × RightContext
  | [] => (0, ⟨.plain, none⟩)
  | c :: rest =>
    let right := measure rest
    let here := columnsBefore c right.2
    (here.1 + right.1, here.2)

/-- The number of columns that a text takes. -/
def columns (text : String) : Nat := (measure text.toList).1.toNat

end BrickControl.Text
