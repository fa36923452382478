import TrickScore.Delimited.Record
import TrickScore.Decimal.Places
import TrickScore.Text.Utf8

/-!
# Records of text

A record is text when all its fields are UTF-8. The first field that is not is reported with the
position at which the reader stood before the record.

Model of the same reader where it turns records into text.
-/

namespace TrickScore.Delimited

/-- The reader's place in a table: records read, the line it is on, bytes read. -/
structure Position where
  record : Nat
  line : Nat
  byte : Nat
  deriving DecidableEq

/-- A field that is not UTF-8, and the length of its longest valid beginning. -/
structure BadField where
  field : Nat
  validLength : Nat
  deriving DecidableEq

/-- Why a table cannot be read. -/
inductive TableError where
  /-- The bytes cannot be had. -/
  | unreadable (reason : String)
  /-- A record is not text. -/
  | notText (position : Position) (bad : BadField)
  deriving DecidableEq

/-- What is said about an error. -/
def TableError.message : TableError → String
  | .unreadable reason => reason
  | .notText position bad =>
    "CSV parse error: record " ++ Decimal.text position.record ++
      " (line " ++ Decimal.text position.line ++ ", field: " ++ Decimal.text bad.field ++
      ", byte: " ++ Decimal.text position.byte ++
      "): invalid utf-8: invalid UTF-8 in field " ++ Decimal.text bad.field ++
      " near byte index " ++ Decimal.text bad.validLength

/-- Where the reader of a table stood before a row. Each line feed read so far began a new line. -/
def Row.position (table : List UInt8) (row : Row) : Position where
  record := row.read
  line := 1 + (table.count feedByte - row.unread.count feedByte)
  byte := table.length - row.unread.length

/-- The texts of fields counted from `index`, or the first that is none. -/
def textsFrom (index : Nat) : List (List UInt8) → Except BadField (List String)
  | [] => .ok []
  | field :: fields =>
    match Text.decode field with
    | .error validLength => .error ⟨index, validLength⟩
    | .ok text => (textsFrom (index + 1) fields).map (text :: ·)

/-- The texts of a row of a table. -/
def Row.texts (table : List UInt8) (row : Row) : Except TableError (List String) :=
  (textsFrom 0 row.fields).mapError fun bad => .notText (row.position table) bad

/-- The rows of a table that are read: those below the header, if there is one, which is not looked
at itself. -/
def readRows (delimiter : UInt8) (hasHeader : Bool) (table : List UInt8) : List Row :=
  let all := rows delimiter table
  if hasHeader then rowsBelowHeader table all else all

end TrickScore.Delimited
