import TrickScore.Delimited.Options
import TrickScore.Delimited.Text
import TrickScore.Ride.Log
import TrickScore.Trick.Symbol

/-!
# Failures

What makes a request or a command fail, gathered over all parts of the program, and the one line
that is said about it.

Model of `BikeShopError`, but for the failure to write JSON, which never comes about, and of
`ServiceError` with `status_code`.
-/

namespace TrickScore

/-- Why a command fails. -/
inductive Failure where
  /-- A file cannot be opened. -/
  | unopened (reason : String)
  /-- A table cannot be read. -/
  | table (error : Delimited.TableError)
  /-- A trick signature cannot be scored. -/
  | trick (error : TrickError)
  /-- A text is no ride log. -/
  | ride (error : RideError)
  /-- The options cannot be met. -/
  | options (error : Delimited.OptionsError)
  deriving DecidableEq

/-- What is said about a failure: its kind and its cause. -/
def Failure.message : Failure → String
  | .unopened reason => "IO Error: " ++ reason
  | .table error => "CSV Parsing Error: " ++ error.message
  | .trick error => "Trick Signature Error: " ++ error.message
  | .ride error => "Ride Log Error: " ++ error.message
  | .options error => "Configuration Error: " ++ error.message

/-- Why a request is refused. Each is a fault of the signature that was sent. -/
inductive Refusal where
  | trick (error : TrickError)
  | ride (error : RideError)
  deriving DecidableEq

namespace Refusal

/-- What is said about a refusal. -/
def message : Refusal → String
  | trick error => error.message
  | ride error => error.message

/-- The status code of the answer to a refused request. -/
def status : Refusal → Nat
  | trick _ => 400
  | ride _ => 400

/-- A refusal as the failure of a command. -/
def toFailure : Refusal → Failure
  | trick error => .trick error
  | ride error => .ride error

end Refusal

end TrickScore
