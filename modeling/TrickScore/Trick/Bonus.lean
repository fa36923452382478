import TrickScore.Trick.Symbol

/-!
# Bonuses for neighbouring tricks

A trick earns a bonus from the trick right before it. Two pairs do: a cash roll after a 360 counts
twice, a barspin after a table three times.

Model of `ContextBonus`, `analyze_context` and `context_multiplier`.

Headlines:
* `Bonus.between?_eq_some_iff`: a bonus stands exactly on its own pair.
-/

namespace TrickScore

/-- What following one trick with another earns. -/
inductive Bonus where
  | cashRollAfter360
  | barspinAfterTable
  deriving DecidableEq

namespace Bonus

/-- The trick that earns the bonus. -/
def earner : Bonus → Action
  | cashRollAfter360 => .cashRoll
  | barspinAfterTable => .barspin

/-- The trick that has to come right before. -/
def opener : Bonus → Action
  | cashRollAfter360 => .threeSixty
  | barspinAfterTable => .table

/-- By how much the score is multiplied. -/
def multiplier : Bonus → Nat
  | cashRollAfter360 => 2
  | barspinAfterTable => 3

/-- The name for people. -/
def title : Bonus → String
  | cashRollAfter360 => "Cash Roll after 360"
  | barspinAfterTable => "Barspin after Table"

/-- The name in events. -/
def name : Bonus → String
  | cashRollAfter360 => "CashRollAfter360"
  | barspinAfterTable => "BarspinAfterTable"

/-- The name in JSON. -/
def key : Bonus → String
  | cashRollAfter360 => "cashRollAfter360"
  | barspinAfterTable => "barspinAfterTable"

/-- The bonus of a trick after another. The first trick of a sequence follows none. -/
def between? : Option Action → Action → Option Bonus
  | some .threeSixty, .cashRoll => some cashRollAfter360
  | some .table, .barspin => some barspinAfterTable
  | _, _ => none

/-- **A bonus stands exactly on its own pair of tricks.** -/
theorem between?_eq_some_iff {previous : Option Action} {current : Action} {bonus : Bonus} :
    between? previous current = some bonus ↔
      previous = some bonus.opener ∧ current = bonus.earner := by
  rcases previous with _ | previous
  · cases current <;> cases bonus <;> simp [between?]
  · cases previous <;> cases current <;> cases bonus <;> decide

end Bonus

/-- What a trick's score is multiplied by: the bonus, if there is one. -/
def contextMultiplier (bonus : Option Bonus) : Binary64 :=
  .ofNat (bonus.elim 1 Bonus.multiplier)

end TrickScore
