import BrickControl.Text.CodePoints
import BrickControl.Text.ColumnTables

/-!
# Ligatures of letters

Letters of some scripts that are drawn as one sign when they follow each other. A text is measured
from its end, so a ligature is found at its last letter and grows to the left: `Ligature.ofLast?`
says what a letter may end, `Ligature.before?` what a character adds in front of it.
-/
namespace BrickControl.Text

/-- Characters that take no column of their own. The filler in front of a Hangul syllable stands
for its consonant, and the joiner of Tifinagh is drawn unless it joins. -/
def hasNoColumn (c : Char) : Bool :=
  (graphemeExtend.has c || defaultIgnorable.has c || hangulTails.has c || leadingMarks.has c)
    && c.toNat != 0x115F && c.toNat != 0x2D7F

/-- Characters that Arabic letters join across. -/
def lettersJoinAcross (c : Char) : Bool := hasNoColumn c && !joinBreaking.has c

/-- Arabic letters that are drawn as an alef. -/
def alefs : CodePoints :=
  [(0x622, 0x623), (0x625, 0x625), (0x627, 0x627), (0x671, 0x673), (0x675, 0x675),
    (0x773, 0x774), (0x870, 0x882)]

/-- Arabic letters that are drawn as a lam. -/
def lams : CodePoints :=
  [(0x644, 0x644), (0x6B5, 0x6B8), (0x76A, 0x76A), (0x8A6, 0x8A6), (0x8C7, 0x8C7)]

/-- Khmer letters whose form below another letter stays within its columns. -/
def khmerSubscripts : CodePoints :=
  [(0x1780, 0x1782), (0x1784, 0x1787), (0x1789, 0x178C), (0x178E, 0x1793), (0x1795, 0x1798),
    (0x179B, 0x179D), (0x17A0, 0x17A0), (0x17A2, 0x17A2), (0x17A7, 0x17A7), (0x17AB, 0x17AC),
    (0x17AF, 0x17AF)]

/-- Tifinagh letters that can be joined in pairs. -/
def tifinaghConsonants : CodePoints := [(0x2D31, 0x2D65), (0x2D6F, 0x2D6F)]

/-- Lisu tone letters that begin a compound tone. -/
def toneBeginnings : CodePoints := [(0xA4F8, 0xA4FB)]

/-- Lisu tone letters that end a compound tone. -/
def toneEndings : CodePoints := [(0xA4FC, 0xA4FD)]

/-- The end of a ligature. A flag says whether a zero width joiner stands in front of it. -/
inductive Ligature where
  /-- An Arabic alef, which merges with a lam. -/
  | alef
  /-- A Hebrew lamed, which an alef is joined to. -/
  | lamed (joined : Bool)
  /-- A Buginese ya, which a syllable with the vowel i is joined to. -/
  | ya (joined : Bool)
  /-- A joined Buginese ya behind the vowel i. -/
  | yaAfterVowel
  /-- A Tifinagh consonant. -/
  | tifinagh (joined : Bool)
  /-- A Tifinagh consonant behind the joiner of its script. -/
  | tifinaghAfterJoiner
  /-- A Lisu tone letter. -/
  | tone
  /-- An Old Turkic i, which an ec is joined to. -/
  | turkicI (joined : Bool)
  /-- A Khmer letter that can stand below another. -/
  | khmer
  deriving DecidableEq, Repr

namespace Ligature

/-- The ligature that a letter may be the end of. -/
def ofLast? (c : Char) : Option Ligature :=
  if alefs.has c then some .alef
  else if c.toNat = 0x5DC then some (.lamed false)
  else if khmerSubscripts.has c then some .khmer
  else if c.toNat = 0x1A10 then some (.ya false)
  else if tifinaghConsonants.has c then some (.tifinagh false)
  else if toneEndings.has c then some .tone
  else if c.toNat = 0x10C03 then some (.turkicI false)
  else none

/-- The same ligature behind a zero width joiner. -/
def afterJoiner : Ligature → Ligature
  | .lamed _ => .lamed true
  | .ya _ => .ya true
  | .tifinagh _ => .tifinagh true
  | .turkicI _ => .turkicI true
  | ligature => ligature

/-- The columns that a letter adds in front of a ligature, and what it leaves open. A joined letter
can add less than nothing, where the sign between the two took a column before. -/
def letterBefore? (ligature : Ligature) (c : Char) : Option (Int × Option Ligature) :=
  match ligature with
  | .alef => if lams.has c then some (0, none) else none
  | .lamed joined => if joined && c.toNat = 0x5D0 then some (0, none) else none
  | .ya joined => if joined && c.toNat = 0x1A17 then some (0, some .yaAfterVowel) else none
  | .yaAfterVowel => if c.toNat = 0x1A15 then some (0, none) else none
  | .tifinagh joined =>
    if c.toNat = 0x2D7F then some (1, some .tifinaghAfterJoiner)
    else if joined && tifinaghConsonants.has c then some (0, none)
    else none
  | .tifinaghAfterJoiner => if tifinaghConsonants.has c then some (-1, none) else none
  | .tone => if toneBeginnings.has c then some (0, none) else none
  | .turkicI joined => if joined && c.toNat = 0x10C32 then some (0, none) else none
  | .khmer => if c.toNat = 0x17D2 then some (-1, none) else none

/-- The columns that a character adds in front of a ligature, and what it leaves open; nothing when
the character is no part of it. Marks that no reader sees change no ligature, and the Arabic one
is kept by every mark that its letters join across. -/
def before? (ligature : Ligature) (c : Char) : Option (Int × Option Ligature) :=
  match ligature with
  | .alef => if lettersJoinAcross c then some (0, some .alef) else letterBefore? .alef c
  | ligature =>
    if c.toNat = 0x200D then some (0, some ligature.afterJoiner)
    else if ignorableMarks.has c then some (0, some ligature)
    else letterBefore? ligature c

end Ligature

end BrickControl.Text
