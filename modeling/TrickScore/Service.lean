import TrickScore.Failure
import TrickScore.Trick.Sequence

/-!
# Requests

One signature is scored or refused. A batch of signatures is scored entry by entry, so that one that
cannot be scored leaves the others as they are. A written ride is decoded or refused.

Model of `score_signature`, `score_batch` with its `BatchEntry`, and `decode_ride_log`.
-/

namespace TrickScore

/-- What is reported about a signature that was scored. -/
def scoredEvent (signature : String) (sequence : Sequence) : Event where
  level := .info
  message :=
    "API: '" ++ signature ++ "' -> " ++ Decimal.text sequence.length ++ " tricks, difficulty " ++
      Decimal.NumberStyle.plain.write sequence.difficulty

/-- The sequence that a signature describes, with what is reported about it. -/
def scoreSignature (signature : String) : Reported (Except Refusal Sequence) :=
  match Sequence.parse signature with
  | .error e => ⟨.error (.trick e), Sequence.parseEvents signature⟩
  | .ok sequence =>
    ⟨.ok sequence, Sequence.parseEvents signature ++ [scoredEvent signature sequence]⟩

/-! ## Batches -/

/-- A signature of a batch with its sequence or what is said about it, whichever there is. -/
structure BatchEntry where
  signature : String
  sequence? : Option Sequence
  error? : Option String

namespace BatchEntry

/-- The entry of a signature. -/
def ofSignature (signature : String) : BatchEntry :=
  match Sequence.parse signature with
  | .ok sequence => ⟨signature, some sequence, none⟩
  | .error e => ⟨signature, none, some e.message⟩

/-- The signature was scored. -/
def isScored (entry : BatchEntry) : Bool :=
  entry.sequence?.isSome

/-- An entry as JSON, with its sequence or its error. -/
def toJson (entry : BatchEntry) : String :=
  Json.object <|
    [("signature", Json.quote entry.signature)] ++
    Json.optional "sequence" (entry.sequence?.map Sequence.toJson) ++
    Json.optional "error" (entry.error?.map Json.quote)

end BatchEntry

/-- How many entries could not be scored. -/
def failedCount (entries : List BatchEntry) : Nat :=
  entries.countP fun entry => !entry.isScored

/-- What is reported about the tricks of a batch on the thread that asked for it, which scores a
single signature itself and leaves several to workers. A listener to the whole program hears those
too: see `Command.batchEvents`. -/
def batchTrickEvents : List String → List Event
  | [signature] => Sequence.parseEvents signature
  | _ => []

/-- What is reported about the failures of a batch, if there are any. -/
def batchFailureEvents (entries : List BatchEntry) : List Event :=
  let failed := failedCount entries
  if failed = 0 then []
  else
    [⟨.warn, "API: " ++ Decimal.text failed ++ " of " ++ Decimal.text entries.length ++
      " signatures failed."⟩]

/-- One entry for each signature, in order. Failures are reported together. -/
def scoreBatch (signatures : List String) : Reported (List BatchEntry) :=
  let entries := signatures.map BatchEntry.ofSignature
  ⟨entries, batchTrickEvents signatures ++ batchFailureEvents entries⟩

/-! ## Rides -/

/-- The view of a written ride. -/
def decodeRide (signature : String) : Except Refusal RideView :=
  match RideLog.parse signature with
  | .error e => .error (.ride e)
  | .ok log => .ok (.ofLog log)

end TrickScore
