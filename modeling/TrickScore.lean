import TrickScore.Binary64.Basic
import TrickScore.Binary64.Bits
import TrickScore.Binary64.Grid
import TrickScore.Command.Arguments
import TrickScore.Command.Line
import TrickScore.Command.Run
import TrickScore.Decimal.NumberText
import TrickScore.Decimal.Places
import TrickScore.Decimal.Shortest
import TrickScore.Delimited.Options
import TrickScore.Delimited.Record
import TrickScore.Delimited.Signatures
import TrickScore.Delimited.Text
import TrickScore.Event
import TrickScore.Failure
import TrickScore.Main
import TrickScore.Proofs.Batch.Entries
import TrickScore.Proofs.Batch.Lines
import TrickScore.Proofs.Binary64.Nearest
import TrickScore.Proofs.Binary64.Order
import TrickScore.Proofs.Binary64.Rounding
import TrickScore.Proofs.Binary64.Unsigned
import TrickScore.Proofs.Command.Answers
import TrickScore.Proofs.Command.Failures
import TrickScore.Proofs.Command.Score
import TrickScore.Proofs.Decimal.Hundredths
import TrickScore.Proofs.Decimal.Shortest
import TrickScore.Proofs.Decimal.Value
import TrickScore.Proofs.Delimited.Accounting
import TrickScore.Proofs.Delimited.Cut
import TrickScore.Proofs.Delimited.Fields
import TrickScore.Proofs.Delimited.Plain
import TrickScore.Proofs.Delimited.Quoted
import TrickScore.Proofs.Delimited.Validity
import TrickScore.Proofs.Json.Collections
import TrickScore.Proofs.Json.Numbers
import TrickScore.Proofs.Json.OneLine
import TrickScore.Proofs.Json.Strings
import TrickScore.Proofs.Report.Difficulty
import TrickScore.Proofs.Ride.Calendar
import TrickScore.Proofs.Ride.Defects
import TrickScore.Proofs.Ride.Grammar
import TrickScore.Proofs.Ride.Signature
import TrickScore.Proofs.Sequence.Bonuses
import TrickScore.Proofs.Sequence.Encoded
import TrickScore.Proofs.Sequence.Growth
import TrickScore.Proofs.Sequence.Joined
import TrickScore.Proofs.Sequence.OutOfRange
import TrickScore.Proofs.Sequence.Pointwise
import TrickScore.Proofs.Sequence.Range
import TrickScore.Proofs.Sequence.Resolve
import TrickScore.Proofs.Sequence.TwoDecimals
import TrickScore.Proofs.Sequence.WholeTotals
import TrickScore.Proofs.Sequence.Written
import TrickScore.Proofs.Text.Encoding
import TrickScore.Proofs.Text.Table
import TrickScore.Proofs.Token.Cut
import TrickScore.Proofs.Token.Occurrence
import TrickScore.Proofs.Token.Scan
import TrickScore.Proofs.Traversal
import TrickScore.Report.Format
import TrickScore.Report.Text
import TrickScore.Ride.Date
import TrickScore.Ride.Log
import TrickScore.Service
import TrickScore.Text.Blank
import TrickScore.Text.CharWidth
import TrickScore.Text.Json
import TrickScore.Text.Ligature
import TrickScore.Text.Picture
import TrickScore.Text.Split
import TrickScore.Text.Table
import TrickScore.Text.Utf8
import TrickScore.Text.Width
import TrickScore.Text.WidthRanges
import TrickScore.Trick.Bonus
import TrickScore.Trick.Sequence
import TrickScore.Trick.Symbol
import TrickScore.Trick.Token
