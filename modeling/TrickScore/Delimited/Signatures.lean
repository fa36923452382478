import TrickScore.Event
import TrickScore.Failure
import TrickScore.Text.Blank

/-!
# Signatures from a table

A table is read whole or not at all. From each record below the header the chosen field is taken and
trimmed; records without such a field, or with a blank one, are passed over and counted.

Model of `load_signatures`, whose loop keeps the signatures and the count of skipped records as a
`Found`.
-/

namespace TrickScore.Delimited

/-- The signature in a column of a record, if one stands there. -/
def signatureAt? (column : Nat) (record : List String) : Option String :=
  match record[column]? with
  | some field => if Text.isBlankText field then none else some (Text.trim field)
  | none => none

/-! ## The loop over the records -/

/-- What has been found in the records so far. -/
structure Found where
  signatures : List String
  /-- How many records were passed over. -/
  skipped : Nat
  deriving DecidableEq

namespace Found

/-- Nothing found yet. -/
def start : Found :=
  ⟨[], 0⟩

/-- One record more: its signature is added, or it is passed over. -/
def add (column : Nat) (found : Found) (record : List String) : Found :=
  match signatureAt? column record with
  | some signature => { found with signatures := found.signatures ++ [signature] }
  | none => { found with skipped := found.skipped + 1 }

/-- What is reported behind the last record: how many were passed over, if any, and how many
signatures were found. -/
def events (found : Found) : List Event :=
  (if found.skipped = 0 then []
    else [⟨.warn, "Skipped " ++ Decimal.text found.skipped ++ " rows without a signature."⟩]) ++
  [⟨.debug, "Loaded " ++ Decimal.text found.signatures.length ++ " signatures."⟩]

/-- Goes on over the rows, up to the first that is not text. -/
def addRows (column : Nat) (table : List UInt8) (found : Found) :
    List Row → Except TableError Found
  | [] => .ok found
  | row :: rows =>
    match row.texts table with
    | .error e => .error e
    | .ok record => addRows column table (found.add column record) rows

end Found

/-! ## Loading -/

/-- The signatures of a table, in the order of its records. -/
def load (options : Options) (table : List UInt8) : Reported (Except Failure (List String)) :=
  match options.delimiterByte with
  | .error e => ⟨.error (.options e), []⟩
  | .ok delimiter =>
    match Found.start.addRows options.column table (readRows delimiter options.hasHeader table) with
    | .error e => ⟨.error (.table e), []⟩
    | .ok found => ⟨.ok found.signatures, found.events⟩

end TrickScore.Delimited
