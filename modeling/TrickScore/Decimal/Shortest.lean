import TrickScore.Binary64.Basic
import TrickScore.Decimal.Places

/-!
# The shortest decimal that reads back

A binary64 magnitude is a whole number of units of `10 ^ (-1074)`, because `2 ^ (-1074)` is `5 ^
1074` of them. So the decimal grids are the multiples of the powers of ten in that count. The
shortest decimal is a point of the coarsest grid that has one which reads back as the magnitude. On
each grid only the two neighbours of the magnitude can be nearest to it, and the nearer of those
that read back is taken.
-/

namespace TrickScore.Decimal

open Binary64 (roundToGrid leastPlace unitsPerOne)

/-- Which of two equally near decimals is taken. -/
inductive Tie where
  | toEven
  | up
  deriving DecidableEq

/-- The number `coefficient * 10 ^ exponent`. -/
structure Scaled where
  coefficient : Nat
  exponent : Int
  deriving DecidableEq

/-- How many units of `10 ^ (-1074)` a magnitude holds. -/
def finestUnits (m : Magnitude) : Nat :=
  m.units * 5 ^ leastPlace

/-- `n` units of `10 ^ (-1074)` read back as `m`: the nearest binary64 magnitude to them is `m`. -/
def ReadsBack (m : Magnitude) (n : Nat) : Prop :=
  roundToGrid n (5 ^ leastPlace) = m.units

instance (m : Magnitude) (n : Nat) : Decidable (ReadsBack m n) :=
  inferInstanceAs (Decidable (_ = _))

/-- Whether the upper neighbour `low + 1` is to be taken, where the magnitude lies `rest` past `low`
steps. -/
def Tie.takesUpper (tie : Tie) (low rest step : Nat) : Bool :=
  if 2 * rest = step then
    match tie with
    | .toEven => low % 2 = 1
    | .up => true
  else
    step < 2 * rest

/-- The nearest multiple of `10 ^ place` that reads back as `m`, counted in that power. -/
def onPlace? (tie : Tie) (m : Magnitude) (place : Nat) : Option Nat :=
  let step := 10 ^ place
  let low := finestUnits m / step
  if ReadsBack m (low * step) then
    if ReadsBack m ((low + 1) * step) && tie.takesUpper low (finestUnits m % step) step then
      some (low + 1)
    else
      some low
  else if ReadsBack m ((low + 1) * step) then
    some (low + 1)
  else
    none

/-- The first decimal that is found from `10 ^ place` down, or else `finest` in the finest count. -/
def searchFrom (onPlace? : Nat → Option Nat) (finest : Nat) : Nat → Scaled
  | 0 => ⟨finest, -leastPlace⟩
  | place + 1 =>
    match onPlace? (place + 1) with
    | some coefficient => ⟨coefficient, (place + 1 : Int) - leastPlace⟩
    | none => searchFrom onPlace? finest place

/-- The shortest decimal that reads back as `m`. The search starts at a power of ten above the
magnitude and ends at the grid on which the magnitude itself lies. -/
def shortest (tie : Tie) (m : Magnitude) : Scaled :=
  if m.units = 0 then ⟨0, 0⟩
  else
    searchFrom (onPlace? tie m) (finestUnits m)
      (leastPlace + (digits (m.units / unitsPerOne)).length)

end TrickScore.Decimal
