import TrickScore.Ride.Date
import TrickScore.Text.Blank
import TrickScore.Text.Json
import TrickScore.Text.Split

/-!
# Ride logs

One ride is written `DDMMYYYY-START-END-ROUTE`. Reading is strict: the text has exactly four parts,
the first is a day of the years 1 to 9999 in eight digits, and no other part is blank. The parts are
kept as they stand.

Model of `RideLog` with `parse` and `to_signature`, of `RideLogError` and of `RideLogView`.
-/

namespace TrickScore

/-- One ride: when, from where, to where, and which way. -/
structure RideLog where
  date : Date
  start : String
  finish : String
  route : String
  deriving DecidableEq

/-- A part of a ride log that must not be blank. -/
inductive RideField where
  | start
  | finish
  | route
  deriving DecidableEq

/-- The name of a part in messages. -/
def RideField.title : RideField → String
  | .start => "Start location"
  | .finish => "End location"
  | .route => "Route name"

/-- Why a text is no ride log. -/
inductive RideError where
  /-- Nothing but blank characters. -/
  | blank
  /-- Not four parts. -/
  | shape
  /-- The first part is not eight digits. -/
  | dateLength (written : String)
  /-- The first part names no day of the years 1 to 9999. -/
  | noSuchDate (written : String)
  /-- A part that must not be blank is. -/
  | blankField (field : RideField)
  deriving DecidableEq

/-- What is said about an error. -/
def RideError.message : RideError → String
  | .blank => "Signature cannot be null or empty"
  | .shape => "Invalid signature format. Expected format: DDMMYYYY-START-END-ROUTE"
  | .dateLength written =>
    "Invalid date format. Expected DDMMYYYY (8 digits), got '" ++ written ++ "'"
  | .noSuchDate written =>
    "Invalid date format. Could not parse date from '" ++ written ++ "'"
  | .blankField field => field.title ++ " cannot be empty"

/-! ## Reading -/

/-- The day that eight digits name, if it exists and its year is not 0. -/
def Date.ofCompact? (written : List Char) : Option Date :=
  let day := Decimal.ofDigits (written.take 2)
  let month := Decimal.ofDigits ((written.drop 2).take 2)
  let year := Decimal.ofDigits (written.drop 4)
  if year = 0 then none else ofParts? year month day

/-- The date in front of a ride log. -/
def readDate (written : List Char) : Except RideError Date :=
  if written.length = 8 ∧ written.all Char.isDigit = true then
    match Date.ofCompact? written with
    | some date => .ok date
    | none => .error (.noSuchDate (String.ofList written))
  else
    .error (.dateLength (String.ofList written))

/-- The first blank part, in the order in which they are written. -/
def firstBlank? (start finish route : List Char) : Option RideField :=
  [(RideField.start, start), (.finish, finish), (.route, route)].findSome? fun (field, part) =>
    if part.all Text.isBlank then some field else none

namespace RideLog

/-- The ride that a text describes, or the first thing that is wrong with it. -/
def parse (signature : String) : Except RideError RideLog :=
  if Text.isBlankText signature then
    .error .blank
  else
    match Text.split '-' signature.toList with
    | [written, start, finish, route] => do
      let date ← readDate written
      match firstBlank? start finish route with
      | some field => .error (.blankField field)
      | none => .ok ⟨date, String.ofList start, String.ofList finish, String.ofList route⟩
    | _ => .error .shape

/-! ## Writing -/

/-- The ride as it is written. -/
def signature (log : RideLog) : String :=
  String.ofList <| Text.join '-'
    [log.date.compact, log.start.toList, log.finish.toList, log.route.toList]

/-- The ride in words. -/
def summary (log : RideLog) : String :=
  "Ride on " ++ log.date.words ++ " from " ++ log.start ++ " to " ++ log.finish ++
    " via route " ++ log.route

/-- The members of a ride in JSON. -/
def members (log : RideLog) : List (String × String) :=
  [("date", Json.quote log.date.iso),
    ("startLocation", Json.quote log.start),
    ("endLocation", Json.quote log.finish),
    ("routeName", Json.quote log.route)]

/-- A ride as JSON. -/
def toJson (log : RideLog) : String :=
  Json.object log.members

end RideLog

/-! ## Views -/

/-- A ride together with its written form and its description. -/
structure RideView where
  log : RideLog
  signature : String
  summary : String
  deriving DecidableEq

namespace RideView

/-- The view of a ride. -/
def ofLog (log : RideLog) : RideView :=
  ⟨log, log.signature, log.summary⟩

/-- A view as JSON. -/
def toJson (view : RideView) : String :=
  Json.object (view.log.members ++
    [("signature", Json.quote view.signature), ("summary", Json.quote view.summary)])

end RideView

end TrickScore
