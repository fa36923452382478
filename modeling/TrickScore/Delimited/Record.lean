/-!
# Delimited records

A table as bytes: records end at a line break, fields are parted by a delimiter byte, and a field
that begins with a quote runs to the closing quote, with a doubled quote for one inside. After the
closing quote a field goes on unquoted. Everything is decided on bytes, one at a time (`Mode.step`),
and lines without a byte are no records.

Model of the reader that `load_signatures` takes its records from.

Headlines:
* `length_rest_cut_lt`: cutting off a record takes at least one byte.
-/

namespace TrickScore.Delimited

/-- The quotation mark. -/
def quoteByte : UInt8 := 0x22

/-- The carriage return. -/
def returnByte : UInt8 := 0x0D

/-- The line feed. -/
def feedByte : UInt8 := 0x0A

/-- A record ends at either line break. -/
def isBreak (b : UInt8) : Bool :=
  b = returnByte || b = feedByte

/-! ## One byte -/

/-- Where in a field the reader stands. -/
inductive Mode where
  /-- Before the field's first byte. -/
  | start
  /-- Outside quotes. -/
  | plain
  /-- Inside quotes. -/
  | quoted
  /-- Right after a quote that may have closed the field. -/
  | closed
  deriving DecidableEq

/-- What a byte does. -/
inductive Step where
  /-- It belongs to the field. -/
  | keep (next : Mode)
  /-- It is a quote that only changes the mode. -/
  | drop (next : Mode)
  /-- It ends the field. -/
  | endField
  /-- It ends the record. -/
  | endRecord
  deriving DecidableEq

/-- What a byte does outside quotes. -/
def plainStep (delimiter b : UInt8) : Step :=
  if b = delimiter then .endField
  else if isBreak b then .endRecord
  else .keep .plain

/-- What a byte does in a mode. -/
def Mode.step (delimiter : UInt8) : Mode → UInt8 → Step
  | .start, b => if b = quoteByte then .drop .quoted else plainStep delimiter b
  | .plain, b => plainStep delimiter b
  | .quoted, b => if b = quoteByte then .drop .closed else .keep .quoted
  | .closed, b => if b = quoteByte then .keep .quoted else plainStep delimiter b

/-! ## One record -/

/-- What is cut off: the rest of the current field, the fields after it, and the bytes behind the
record. -/
structure Cut where
  field : List UInt8
  later : List (List UInt8)
  rest : List UInt8
  deriving DecidableEq

namespace Cut

/-- A byte in front of the current field. -/
def push (b : UInt8) (c : Cut) : Cut :=
  { c with field := b :: c.field }

/-- An empty field in front of the current one, to be filled by `push`. -/
def endField (c : Cut) : Cut :=
  ⟨[], c.field :: c.later, c.rest⟩

/-- All fields. -/
def fields (c : Cut) : List (List UInt8) :=
  c.field :: c.later

end Cut

/-- The bytes up to the end of the record, read from a given mode. The end of the input ends every
record. -/
def cut (delimiter : UInt8) : Mode → List UInt8 → Cut
  | _, [] => ⟨[], [], []⟩
  | mode, b :: bs =>
    match mode.step delimiter b with
    | .keep next => (cut delimiter next bs).push b
    | .drop next => cut delimiter next bs
    | .endField => (cut delimiter .start bs).endField
    | .endRecord => ⟨[], [], bs⟩

theorem length_rest_cut_le (delimiter : UInt8) (mode : Mode) (bs : List UInt8) :
    (cut delimiter mode bs).rest.length ≤ bs.length := by
  induction bs generalizing mode with
  | nil => simp [cut]
  | cons b bs ih =>
    unfold cut
    split
    · exact Nat.le_succ_of_le (ih _)
    · exact Nat.le_succ_of_le (ih _)
    · exact Nat.le_succ_of_le (ih _)
    · simp

/-- **Cutting takes at least one byte.** -/
theorem length_rest_cut_lt (delimiter : UInt8) (mode : Mode) (b : UInt8) (bs : List UInt8) :
    (cut delimiter mode (b :: bs)).rest.length < (b :: bs).length := by
  unfold cut
  split
  · exact Nat.lt_succ_of_le (length_rest_cut_le delimiter _ bs)
  · exact Nat.lt_succ_of_le (length_rest_cut_le delimiter _ bs)
  · exact Nat.lt_succ_of_le (length_rest_cut_le delimiter _ bs)
  · simp

/-! ## All records -/

/-- A record, and where reading stood before it. -/
structure Row where
  fields : List (List UInt8)
  /-- How many records had been read. -/
  read : Nat
  /-- The bytes that had not been read. -/
  unread : List UInt8
  deriving DecidableEq

/-- The rows of the input, after `read` records, with the bytes counted as unread. Line breaks in
front of a record are skipped. -/
def rowsFrom (delimiter : UInt8) (read : Nat) (unread input : List UInt8) : List Row :=
  match _h : input.dropWhile isBreak with
  | [] => []
  | b :: bs =>
    let c := cut delimiter .start (b :: bs)
    ⟨c.fields, read, unread⟩ :: rowsFrom delimiter (read + 1) c.rest c.rest
termination_by input.length
decreasing_by
  have hcut := length_rest_cut_lt delimiter .start b bs
  have hdrop := (List.dropWhile_sublist isBreak (l := input)).length_le
  rw [_h] at hdrop
  omega

/-- The mark that may stand in front of a text to say that it is UTF-8. -/
def byteOrderMark : List UInt8 := [0xEF, 0xBB, 0xBF]

/-- The bytes behind a byte order mark. -/
def withoutMark (input : List UInt8) : List UInt8 :=
  if byteOrderMark.isPrefixOf input then input.drop byteOrderMark.length else input

/-- The rows of a whole table. -/
def rows (delimiter : UInt8) (table : List UInt8) : List Row :=
  rowsFrom delimiter 0 table (withoutMark table)

/-- The rows below the header. The header is read together with the first of them, which so stands
where the table begins. -/
def rowsBelowHeader (table : List UInt8) : List Row → List Row
  | _ :: row :: more => { row with read := 0, unread := table } :: more
  | _ => []

end TrickScore.Delimited
