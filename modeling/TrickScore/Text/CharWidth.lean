import TrickScore.Text.WidthRanges

/-!
# The width of a character

How many terminal columns a character takes where it merges with nothing: most take one, wide ones
two, combining ones none.
-/

namespace TrickScore.Text

/-- The columns of a character that stands alone. The Khmer sign BEYYAL takes three. -/
def charWidth (c : Char) : Nat :=
  if inRanges zeroWidthRanges c then 0
  else if inRanges wideRanges c then 2
  else if c = '\u17D8' then 3
  else 1

/-- The character that asks for the characters around it to be shown as one. -/
def joiner : Char := '\u200D'

end TrickScore.Text
