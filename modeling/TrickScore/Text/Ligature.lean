import TrickScore.Text.CharWidth

/-!
# Ligatures of scripts

Some scripts show certain characters in a row as one. A ligature is found from its end: what may
end one is a `LigatureTail`, and `LigatureTail.merge?` says what becomes of it when one more
character is put in front.

* **Arabic**: a lam and an alef.
* **Hebrew**: an alef joined to a lamed.
* **Buginese**: the letter a, the vowel i, and a ya joined to them.
* **Tifinagh**: two consonants, joined or with the consonant joiner between them.
* **Lisu**: two tone letters.
* **Old Turkic**: the letters ec and i, joined.
* **Khmer**: the sign coeng and the letter that it writes below.
* **Kirat Rai**: the parts of a vowel sign.

Marks that are not shown may stand between letters that merge, in Arabic also marks that are.
-/

namespace TrickScore.Text

/-- The letters alef, with and without marks of their own. -/
def alefRanges : List (Nat × Nat) :=
  [(0x622, 0x623), (0x625, 0x625), (0x627, 0x627), (0x671, 0x673), (0x675, 0x675), (0x773, 0x774),
    (0x870, 0x882)]

/-- The letters lam, with and without marks of their own. -/
def lamRanges : List (Nat × Nat) :=
  [(0x644, 0x644), (0x6B5, 0x6B8), (0x76A, 0x76A), (0x8A6, 0x8A6), (0x8C7, 0x8C7)]

/-- The consonants of Tifinagh. -/
def tifinaghRanges : List (Nat × Nat) :=
  [(0x2D31, 0x2D65), (0x2D6F, 0x2D6F)]

/-- The Khmer letters that can be written below another. -/
def khmerRanges : List (Nat × Nat) :=
  [(0x1780, 0x1782), (0x1784, 0x1787), (0x1789, 0x178C), (0x178E, 0x1793), (0x1795, 0x1798),
    (0x179B, 0x179D), (0x17A0, 0x17A0), (0x17A2, 0x17A2), (0x17A7, 0x17A7), (0x17AB, 0x17AC),
    (0x17AF, 0x17AF)]

/-- What may end a ligature. A letter that merges only when joined says whether a joiner stands in
front of it. -/
inductive LigatureTail where
  /-- An Arabic alef. -/
  | alef
  /-- A Hebrew lamed. -/
  | lamed (joined : Bool)
  /-- A Buginese ya. -/
  | ya (joined : Bool)
  /-- A Buginese vowel i and the ya joined to it. -/
  | vowelAndYa
  /-- A consonant of Tifinagh. -/
  | consonant (joined : Bool)
  /-- The consonant joiner of Tifinagh and a consonant. -/
  | joinerAndConsonant
  /-- A Lisu tone letter that can stand second. -/
  | tone
  /-- An Old Turkic i. -/
  | orkhonI (joined : Bool)
  /-- A Khmer letter that can be written below another. -/
  | subscript
  /-- The Kirat Rai vowel sign E. -/
  | vowelE
  /-- The Kirat Rai vowel sign AI, or the two signs E that it is composed of. -/
  | vowelAI
  deriving DecidableEq

namespace LigatureTail

/-- What a character may end. -/
def ofChar? (c : Char) : Option LigatureTail :=
  if inRanges alefRanges c then some alef
  else if c.toNat = 0x5DC then some (lamed false)
  else if c.toNat = 0x1A10 then some (ya false)
  else if inRanges tifinaghRanges c then some (consonant false)
  else if c.toNat = 0xA4FC ∨ c.toNat = 0xA4FD then some tone
  else if c.toNat = 0x10C03 then some (orkhonI false)
  else if inRanges khmerRanges c then some subscript
  else if c.toNat = 0x16D67 then some vowelE
  else if c.toNat = 0x16D68 then some vowelAI
  else none

/-- The tail behind a joiner, unless the joiner parts it from what is before. -/
def join? : LigatureTail → Option LigatureTail
  | alef | vowelE | vowelAI => none
  | lamed _ => some (lamed true)
  | ya _ => some (ya true)
  | consonant _ => some (consonant true)
  | orkhonI _ => some (orkhonI true)
  | tail => some tail

/-- A mark may stand between the tail and what merges with it. -/
def passes (tail : LigatureTail) (mark : Char) : Bool :=
  match tail with
  | alef => charWidth mark = 0 && !inRanges separatingRanges mark
  | vowelE | vowelAI => false
  | _ => inRanges ignorableMarkRanges mark

/-- A variation selector may stand in front of the tail. -/
def passesSelectors : LigatureTail → Bool
  | vowelE | vowelAI => false
  | _ => true

/-- The columns that a character adds in front of a tail, and the tail that the two make. `none`:
the character has no part in a ligature with the tail. A sign that moves the tail below another
letter takes the tail's column away. -/
def merge? (tail : LigatureTail) (c : Char) : Option (Int × Option LigatureTail) :=
  if c = joiner then tail.join?.map fun joined => (0, some joined)
  else if tail.passes c then some (0, some tail)
  else
    match tail with
    | alef => if inRanges lamRanges c then some (0, none) else none
    | lamed joined => if joined ∧ c.toNat = 0x5D0 then some (0, none) else none
    | ya joined => if joined ∧ c.toNat = 0x1A17 then some (0, some vowelAndYa) else none
    | vowelAndYa => if c.toNat = 0x1A15 then some (0, none) else none
    | consonant joined =>
      if c.toNat = 0x2D7F then some (1, some joinerAndConsonant)
      else if joined && inRanges tifinaghRanges c then some (0, none)
      else none
    | joinerAndConsonant => if inRanges tifinaghRanges c then some (-1, none) else none
    | tone => if 0xA4F8 ≤ c.toNat ∧ c.toNat ≤ 0xA4FB then some (0, none) else none
    | orkhonI joined => if joined ∧ c.toNat = 0x10C32 then some (0, none) else none
    | subscript => if c.toNat = 0x17D2 then some (-1, none) else none
    | vowelE =>
      if c.toNat = 0x16D63 ∨ c.toNat = 0x16D69 then some (0, none)
      else if c.toNat = 0x16D67 then some (0, some vowelAI)
      else if c.toNat = 0x16D68 then some (1, some vowelE)
      else none
    | vowelAI => if c.toNat = 0x16D63 then some (0, none) else none

end LigatureTail

end TrickScore.Text
