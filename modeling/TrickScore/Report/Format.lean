/-!
# Output formats

Results are shown as tables for people or as JSON for programs.

Model of `OutputFormat` and `ReportParams`.
-/

namespace TrickScore

/-- How results are shown. -/
inductive OutputFormat where
  | table
  | json
  deriving DecidableEq

namespace OutputFormat

/-- The name of a format. -/
def name : OutputFormat → String
  | table => "table"
  | json => "json"

/-- The format with a given name, in letters of either case. -/
def ofName? (given : String) : Option OutputFormat :=
  [table, json].find? fun format => given.toList.map Char.toLower = format.name.toList

end OutputFormat

/-- How a report is written. -/
structure ReportOptions where
  format : OutputFormat := .table
  /-- The decimals of a trick's score in a table. More than 65535 cannot be printed by the program,
  which ends there in a way that is not described here. -/
  precision : Nat := 2
  deriving DecidableEq

end TrickScore
