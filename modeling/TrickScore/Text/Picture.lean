import TrickScore.Text.CharWidth

/-!
# Composed pictures

A picture takes two columns however many characters it is composed of. It is found from its end:
what may be the later part of a picture is a `PictureTail`, and `PictureTail.merge?` says what
becomes of it when one more character is put in front.

* A person and a skin tone are one picture.
* Two letters of a flag are one picture. Of more letters in a row the first two make a flag, then
  the next two.
* A joiner makes one picture of the two beside it. The first may be a keycap, which is a digit, a
  variation selector and the mark that encloses it, or the flag of a region, which is a black flag,
  the region's code in tag characters and the end of the tag. A code has three to six letters, or
  three digits and at most four letters.
-/

namespace TrickScore.Text

/-- A skin tone. -/
def isSkinTone (c : Char) : Bool :=
  0x1F3FB ≤ c.toNat && c.toNat ≤ 0x1F3FF

/-- A letter of which two make a flag. -/
def isFlagLetter (c : Char) : Bool :=
  0x1F1E6 ≤ c.toNat && c.toNat ≤ 0x1F1FF

/-- A letter in the tag of a black flag. -/
def isTagLetter (c : Char) : Bool :=
  0xE0061 ≤ c.toNat && c.toNat ≤ 0xE007A

/-- A digit in the tag of a black flag. -/
def isTagDigit (c : Char) : Bool :=
  0xE0030 ≤ c.toNat && c.toNat ≤ 0xE0039

/-- The later part of a picture that more characters may belong to. -/
inductive PictureTail where
  /-- A picture. -/
  | picture
  /-- A skin tone. -/
  | skinTone
  /-- As many letters of flags. -/
  | flagLetters (count : Nat)
  /-- A joiner and a picture. -/
  | joined
  /-- The mark that encloses a keycap, and a picture joined to it. -/
  | joinedKeycap
  /-- As many letters of flags, and a picture joined to them. -/
  | joinedFlagLetters (count : Nat)
  /-- The last letters of a tag and its end, and a picture joined to it. -/
  | tagLetters (count : Nat)
  /-- The same behind digits of the tag. -/
  | tagDigits (count : Nat)
  deriving DecidableEq

namespace PictureTail

/-- What a character may be the later part of. -/
def ofChar? (c : Char) : Option PictureTail :=
  if isFlagLetter c then some (flagLetters 1)
  else if isSkinTone c then some skinTone
  else if inRanges pictureRanges c then some picture
  else none

/-- A picture in front of the tail is one with it. -/
def isJoined : PictureTail → Bool
  | joined | joinedKeycap => true
  | _ => false

/-- The columns that a character adds in front of a tail, and the tail that the two make. `none`:
the character has no part in a picture with the tail. An odd letter joined to a picture has a column
of its own, and loses it to the flag that one more letter completes. -/
def merge? (tail : PictureTail) (c : Char) : Option (Int × PictureTail) :=
  match tail with
  | picture => if c = joiner then some (0, joined) else none
  | skinTone =>
    if inRanges personRanges c then some (0, picture)
    else if c = joiner then some (0, joined)
    else none
  | flagLetters count =>
    if isFlagLetter c then some (1, flagLetters (count + 1))
    else if c = joiner ∧ 2 ≤ count then some (0, joined)
    else none
  | joined =>
    if c.toNat = 0x20E3 then some (0, joinedKeycap)
    else if isFlagLetter c then some (1, joinedFlagLetters 1)
    else if isSkinTone c then some (0, skinTone)
    else if c.toNat = 0xE007F then some (0, tagLetters 0)
    else if inRanges pictureRanges c then some (0, picture)
    else none
  | joinedKeycap => none
  | joinedFlagLetters count =>
    if isFlagLetter c then some (if count % 2 = 1 then -1 else 3, joinedFlagLetters (count + 1))
    else if c = joiner ∧ 2 ≤ count then some (0, joined)
    else none
  | tagLetters count =>
    if isTagLetter c ∧ count < 6 then some (0, tagLetters (count + 1))
    else if isTagDigit c ∧ count ≤ 4 then some (0, tagDigits 1)
    else if c.toNat = 0x1F3F4 ∧ 3 ≤ count then some (0, picture)
    else none
  | tagDigits count =>
    if isTagDigit c ∧ count < 3 then some (0, tagDigits (count + 1))
    else if c.toNat = 0x1F3F4 ∧ count = 3 then some (0, picture)
    else none

end PictureTail

end TrickScore.Text
