import TrickScore.Text.Utf8

/-!
# How a table of signatures is laid out

Model of `BatchParams` and `delimiter_byte`.
-/

namespace TrickScore.Delimited

/-- Where the signatures stand in a table. -/
structure Options where
  /-- What parts the fields, as it was asked for. -/
  delimiter : String := ","
  /-- Whether the first record is a header. -/
  hasHeader : Bool := false
  /-- The field that holds the signature, counted from 0. -/
  column : Nat := 0
  deriving DecidableEq

/-- Why the options cannot be met. -/
inductive OptionsError where
  /-- The delimiter is not one byte long. -/
  | delimiterLength (given : String)
  deriving DecidableEq

/-- What is said about an error. -/
def OptionsError.message : OptionsError → String
  | .delimiterLength given => "--delimiter must be a single byte, got '" ++ given ++ "'"

/-- The byte that parts the fields. A tab may also be written as a backslash and a `t`. -/
def Options.delimiterByte (options : Options) : Except OptionsError UInt8 :=
  if options.delimiter = "\\t" then
    .ok 0x09
  else
    match Text.bytes options.delimiter with
    | [b] => .ok b
    | _ => .error (.delimiterLength options.delimiter)

end TrickScore.Delimited
