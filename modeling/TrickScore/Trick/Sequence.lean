import TrickScore.Event
import TrickScore.Text.Json
import TrickScore.Trick.Bonus
import TrickScore.Trick.Token

/-!
# Scored trick sequences

A token becomes a trick once its letters are known and it is clear which trick came before. Its
score is its count times what its modifier is worth, times its bonus, each product rounded to
binary64. The tokens are scored from the left, and what this has come to is a `Progress`: the tricks
so far, the sum of their scores, and the last action. The difficulty of a sequence is the sum at the
end, rounded once to two decimals.

Model of `Trick` and `TrickSequence`, with `resolve_token`, `score_tokens` and `round_difficulty`.
-/

namespace TrickScore

/-! ## Tricks -/

/-- A trick with its score. -/
structure Trick where
  action : Action
  /-- The name of the action. -/
  name : String
  count : UInt64
  modifier : Modifier
  score : Binary64
  bonus : Option Bonus
  deriving DecidableEq

/-- The score of a trick: count times modifier, then times the bonus. -/
def trickScore (count : UInt64) (modifier : Modifier) (bonus : Option Bonus) : Binary64 :=
  Binary64.ofNat count.toNat * modifier.multiplier * contextMultiplier bonus

namespace Trick

/-- An action that is done so often, under a modifier and with a bonus, if it has one. -/
def scored (action : Action) (count : UInt64) (modifier : Modifier) (bonus : Option Bonus) :
    Trick :=
  ⟨action, action.name, count, modifier, trickScore count modifier bonus, bonus⟩

/-- The trick of a token after a given action. The action letter is looked at before the modifier
letter. -/
def ofToken (previous : Option Action) (token : Token) : Except TrickError Trick := do
  let action ← Action.read token.action
  let modifier ← Modifier.read token.modifier
  return scored action token.count modifier (Bonus.between? previous action)

/-- What is reported about a scored trick. -/
def event (trick : Trick) : Event where
  level := .debug
  message :=
    trick.name ++ " x" ++ Decimal.text trick.count.toNat ++
      " [" ++ trick.modifier.symbol.toString ++ "] -> " ++
      Decimal.NumberStyle.plain.write trick.score ++
      " (bonus: " ++ trick.bonus.elim "None" (fun bonus => "Some(" ++ bonus.name ++ ")") ++ ")"

/-- A trick as JSON. The bonus stands only where there is one. -/
def toJson (trick : Trick) : String :=
  Json.object <|
    [("actionLetter", Json.quote trick.action.symbol.toString),
      ("action", Json.quote trick.name),
      ("repetitionCount", Decimal.text trick.count.toNat),
      ("difficultyModifier", Json.quote trick.modifier.symbol.toString),
      ("score", Json.number trick.score)] ++
    Json.optional "bonus" (trick.bonus.map fun bonus => Json.quote bonus.key)

end Trick

/-! ## Scoring tokens in order -/

/-- What scoring has come to. -/
structure Progress where
  /-- The tricks so far. -/
  tricks : List Trick
  /-- The sum of their scores, from the left. -/
  total : Binary64
  /-- The action of the last of them. -/
  previous : Option Action

namespace Progress

/-- Before the first token. -/
def start : Progress :=
  ⟨[], Binary64.zero, none⟩

/-- One trick further. -/
def add (progress : Progress) (trick : Trick) : Progress :=
  ⟨progress.tricks ++ [trick], progress.total + trick.score, some trick.action⟩

/-- What scoring comes to, up to the first token that is rejected, and why that was. -/
def score (progress : Progress) : List Token → Progress × Option TrickError
  | [] => (progress, none)
  | token :: tokens =>
    match Trick.ofToken progress.previous token with
    | .error e => (progress, some e)
    | .ok trick => (progress.add trick).score tokens

end Progress

/-! ## Sequences -/

/-- Two decimals: the number scaled by a hundred, rounded to an integer with ties to even, and
scaled back. -/
def roundDifficulty (total : Binary64) : Binary64 :=
  (total * Binary64.ofNat 100).roundToInteger / Binary64.ofNat 100

/-- Tricks in order, and how difficult they are together. -/
structure Sequence where
  tricks : List Trick
  difficulty : Binary64
  deriving DecidableEq

namespace Sequence

/-- No tricks and no difficulty. -/
def empty : Sequence :=
  ⟨[], Binary64.zero⟩

/-- The sequence of the tokens, or the error of the first token that is rejected. -/
def ofTokens (tokens : List Token) : Except TrickError Sequence :=
  match Progress.start.score tokens with
  | (progress, none) => .ok ⟨progress.tricks, roundDifficulty progress.total⟩
  | (_, some e) => .error e

/-- What is reported while tokens are scored: every trick before the first rejected token. -/
def events (tokens : List Token) : List Event :=
  (Progress.start.score tokens).1.tricks.map Trick.event

/-- The sequence that a signature describes. -/
def parse (signature : String) : Except TrickError Sequence := do
  let tokens ← Token.scan signature
  ofTokens tokens

/-- What is reported while a signature is parsed. A count out of range is found before anything is
scored. -/
def parseEvents (signature : String) : List Event :=
  match Token.scan signature with
  | .ok tokens => events tokens
  | .error _ => []

/-- How many tricks there are. -/
def length (sequence : Sequence) : Nat :=
  sequence.tricks.length

/-- How many tricks earned a bonus. -/
def bonusCount (sequence : Sequence) : Nat :=
  sequence.tricks.countP fun trick => trick.bonus.isSome

/-- The scores in order. -/
def scores (sequence : Sequence) : List Binary64 :=
  sequence.tricks.map Trick.score

/-- A sequence as JSON. -/
def toJson (sequence : Sequence) : String :=
  Json.object
    [("tricks", Json.array (sequence.tricks.map Trick.toJson)),
      ("difficulty", Json.number sequence.difficulty)]

end Sequence

end TrickScore
