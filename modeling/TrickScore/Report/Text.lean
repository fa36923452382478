import TrickScore.Report.Format
import TrickScore.Service
import TrickScore.Text.Table

/-!
# Reports

What is printed about a scored signature, about a batch and about a ride, as a table or as one line
of JSON.

Model of `print_sequence`, `print_batch_summary` and `print_ride_log`, and of the lines that are
printed as JSON in their place.
-/

namespace TrickScore

/-- A text ended as a line. -/
def line (text : String) : String :=
  text ++ "\n"

/-! ## Scored signatures -/

/-- What a table says about a bonus: its name and by how much it multiplies. -/
def Bonus.label (bonus : Bonus) : String :=
  bonus.title ++ " (x" ++ Decimal.fixed 1 (contextMultiplier (some bonus)) ++ ")"

/-- The row of the `number`th trick. -/
def Trick.row (precision number : Nat) (trick : Trick) : List String :=
  [Decimal.text number,
    trick.name ++ " (" ++ trick.action.symbol.toString ++ ")",
    Decimal.text trick.count.toNat,
    trick.modifier.symbol.toString,
    trick.bonus.elim "" Bonus.label,
    Decimal.fixed precision trick.score]

/-- The table of a sequence. -/
def Sequence.table (precision : Nat) (sequence : Sequence) : Text.Table where
  alignments := [.right, .left, .right, .left, .left, .right]
  rows :=
    ["#", "Trick", "Reps", "Mod", "Bonus", "Score"] ::
      sequence.tricks.zipIdx.map fun (trick, index) => trick.row precision (index + 1)

/-- The difficulty as a table shows it. -/
def Sequence.difficultyText (sequence : Sequence) : String :=
  Decimal.fixed 2 sequence.difficulty

/-- The report on a scored signature. -/
def Sequence.report (options : ReportOptions) (signature : String) (sequence : Sequence) : String :=
  match options.format with
  | .json => line sequence.toJson
  | .table =>
    "\n" ++ line ("Signature: " ++ signature) ++
      (sequence.table options.precision).render ++
      line ("Difficulty: " ++ sequence.difficultyText ++
        "  (" ++ Decimal.text sequence.length ++ " tricks, " ++
        Decimal.text sequence.bonusCount ++ " bonuses)")

/-! ## Batches -/

/-- The row of an entry. One that could not be scored has its error in the last cell. -/
def BatchEntry.row (entry : BatchEntry) : List String :=
  match entry.sequence?, entry.error? with
  | some sequence, _ =>
    [entry.signature, Decimal.text sequence.length, Decimal.text sequence.bonusCount,
      sequence.difficultyText]
  | none, error? => [entry.signature, "-", "-", error?.getD "error"]

/-- The table of a batch. -/
def batchTable (entries : List BatchEntry) : Text.Table where
  alignments := [.left, .right, .right, .right]
  rows := ["Signature", "Tricks", "Bonuses", "Difficulty"] :: entries.map BatchEntry.row

/-- The report on a batch: a table, or a line of JSON for each entry. -/
def batchReport (format : OutputFormat) (entries : List BatchEntry) : String :=
  match format with
  | .json => String.join (entries.map fun entry => line entry.toJson)
  | .table => "\n" ++ line "=== BATCH SUMMARY ===" ++ (batchTable entries).render

/-! ## Rides -/

/-- The table of a ride. -/
def RideView.table (view : RideView) : Text.Table where
  alignments := [.left, .left]
  rows :=
    [["Date", view.log.date.iso],
      ["Start", view.log.start],
      ["End", view.log.finish],
      ["Route", view.log.route],
      ["Signature", view.signature]]

/-- The report on a ride. -/
def RideView.report (format : OutputFormat) (view : RideView) : String :=
  match format with
  | .json => line view.toJson
  | .table => view.table.render ++ line view.summary

end TrickScore
