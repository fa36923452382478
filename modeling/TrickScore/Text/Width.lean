import TrickScore.Text.Ligature
import TrickScore.Text.Picture

/-!
# Display width

How many terminal columns a line takes. Characters that merge are one: the parts of a ligature
(`TrickScore.Text.Ligature`) and of a picture (`TrickScore.Text.Picture`). A variation selector says
in which form the character before it is shown. Both are known from what is behind a character, so a
line is measured from its end.
-/

namespace TrickScore.Text

/-- What follows a character and may merge with it. -/
inductive Follower where
  /-- Nothing that merges. -/
  | plain
  | ligature (tail : LigatureTail)
  | picture (tail : PictureTail)
  deriving DecidableEq

/-- How a variation selector asks for the character before it to be shown. -/
inductive Form where
  /-- There is no selector. -/
  | free
  /-- As a symbol. -/
  | text
  /-- As a picture. -/
  | picture
  /-- As a quotation mark of two columns. -/
  | fullwidth
  deriving DecidableEq

/-- All that a character has to know of the text behind it. -/
structure Behind where
  form : Form
  follower : Follower
  deriving DecidableEq

/-- A text behind that asks for no form. -/
def Follower.behind (follower : Follower) : Behind :=
  ⟨.free, follower⟩

/-- A character on its own, as the character before it sees it. -/
def Follower.ofChar (c : Char) : Follower :=
  match PictureTail.ofChar? c, LigatureTail.ofChar? c with
  | some tail, _ => .picture tail
  | none, some tail => .ligature tail
  | none, none => .plain

/-- What is left to merge in front of a variation selector. -/
def Follower.inFrontOfSelector : Follower → Follower
  | .ligature tail => if tail.passesSelectors then .ligature tail else .plain
  | _ => .plain

/-- A picture before the follower is one with it. -/
def Follower.isJoined : Follower → Bool
  | .picture tail => tail.isJoined
  | _ => false

/-- The columns that a character adds to what it merges with, and what the two are. -/
def Follower.merge? (follower : Follower) (c : Char) : Option (Int × Follower) :=
  match follower with
  | .plain => none
  | .ligature tail =>
    (tail.merge? c).map fun (columns, rest) => (columns, rest.elim .plain .ligature)
  | .picture tail => (tail.merge? c).map fun (columns, rest) => (columns, .picture rest)

/-- The columns that a character adds to a line, and what the character before it sees. Up to the
no-break space each character has one column and merges with nothing. -/
def Follower.before (follower : Follower) (c : Char) : Int × Behind :=
  if c.toNat ≤ 0xA0 then (1, Follower.plain.behind)
  else if c = '\uFE0E' then (0, ⟨.text, follower.inFrontOfSelector⟩)
  else if c = '\uFE0F' then
    (0, ⟨.picture, if follower.isJoined then follower else follower.inFrontOfSelector⟩)
  else if c = '\uFE01' then (0, ⟨.fullwidth, follower.inFrontOfSelector⟩)
  else
    match follower.merge? c with
    | some (columns, merged) => (columns, merged.behind)
    | none => (charWidth c, (Follower.ofChar c).behind)

/-- A picture that can be shown as a symbol of one column. Enclosed ideographs stay wide. -/
def isNarrowAsText (c : Char) : Bool :=
  inRanges selectableRanges c && inRanges pictureRanges c && c.toNat / 0x100 != 0x1F2

/-- A curly quotation mark. -/
def isCurlyQuote (c : Char) : Bool :=
  c = '\u2018' || c = '\u2019' || c = '\u201C' || c = '\u201D'

/-- The columns that a character adds to a line, and what the character before it sees. A form that
the character does not have is passed over. -/
def Behind.before (behind : Behind) (c : Char) : Int × Behind :=
  match behind.form with
  | .free => behind.follower.before c
  | .text =>
    if isNarrowAsText c then (1, Follower.plain.behind)
    else behind.follower.before c
  | .picture =>
    if inRanges selectableRanges c then
      (if behind.follower.isJoined then 0 else 2, (Follower.picture .picture).behind)
    else behind.follower.inFrontOfSelector.before c
  | .fullwidth =>
    if isCurlyQuote c then (2, Follower.plain.behind)
    else behind.follower.before c

/-- The columns of a text, and what a character before it sees. -/
def measure (text : List Char) : Int × Behind :=
  text.foldr
    (fun c (columns, behind) =>
      let (added, start) := behind.before c
      (columns + added, start))
    (0, Follower.plain.behind)

/-- The columns of a line. -/
def width (line : List Char) : Nat :=
  (measure line).1.toNat

end TrickScore.Text
