import TrickScore.Binary64.Grid

/-!
# Binary64 numbers

The IEEE 754 binary64 numbers and the operations that scoring needs: addition, multiplication,
division and rounding to an integer. A finite number is a sign and a magnitude on the grid, so `+0`
and `-0` differ; all NaNs are one value. Each operation forms the exact result and rounds it once,
to nearest with ties to even (`ofQuotient`); a result that would round past the largest finite
magnitude is infinite.
-/

namespace TrickScore

/-- A finite magnitude, in units of `2 ^ (-1074)`. -/
structure Magnitude where
  units : Nat
  onGrid : Binary64.OnGrid units
  lt_limit : units < Binary64.limit
  deriving DecidableEq

/-- An IEEE 754 binary64 number. -/
inductive Binary64 where
  | finite (negative : Bool) (magnitude : Magnitude)
  | infinite (negative : Bool)
  | nan
  deriving DecidableEq

namespace Magnitude

@[ext] theorem ext {x y : Magnitude} (h : x.units = y.units) : x = y := by
  cases x; cases y; cases h; rfl

/-- The magnitude of zero. -/
def zero : Magnitude :=
  ⟨0, Binary64.onGrid_zero, Binary64.limit_pos⟩

end Magnitude

namespace Binary64

/-! ## Rounding an exact result -/

/-- The number nearest to `num / den` units, with the given sign. -/
def ofQuotient (negative : Bool) (num den : Nat) : Binary64 :=
  if h : roundToGrid num den < limit then
    .finite negative ⟨roundToGrid num den, onGrid_roundToGrid num den, h⟩
  else
    .infinite negative

/-- The number nearest to the fraction `num / den`. -/
def ofFraction (num den : Nat) : Binary64 :=
  ofQuotient false (num * unitsPerOne) den

/-- The number nearest to a natural number. -/
def ofNat (n : Nat) : Binary64 :=
  ofFraction n 1

/-- Positive zero. -/
def zero : Binary64 :=
  .finite false .zero

instance : Inhabited Binary64 := ⟨zero⟩

theorem ofQuotient_of_lt {negative : Bool} {num den : Nat} (h : roundToGrid num den < limit) :
    ofQuotient negative num den =
      .finite negative ⟨roundToGrid num den, onGrid_roundToGrid num den, h⟩ :=
  dif_pos h

/-- **A magnitude is its own rounding.** -/
theorem ofQuotient_units (negative : Bool) (m : Magnitude) :
    ofQuotient negative m.units 1 = .finite negative m := by
  have h := roundToGrid_of_onGrid m.onGrid
  rw [ofQuotient_of_lt (h.symm ▸ m.lt_limit)]
  congr 1
  exact Magnitude.ext h

/-! ## Arithmetic -/

/-- The sum of two finite numbers. Opposite numbers add up to `+0`. -/
def addFinite (s : Bool) (a : Magnitude) (t : Bool) (b : Magnitude) : Binary64 :=
  if s = t then ofQuotient s (a.units + b.units) 1
  else if b.units < a.units then ofQuotient s (a.units - b.units) 1
  else if a.units < b.units then ofQuotient t (b.units - a.units) 1
  else zero

/-- The sum, rounded once. Opposite infinities have none. -/
def add : Binary64 → Binary64 → Binary64
  | .nan, _ => .nan
  | _, .nan => .nan
  | .infinite s, .infinite t => if s = t then .infinite s else .nan
  | .infinite s, .finite _ _ => .infinite s
  | .finite _ _, .infinite t => .infinite t
  | .finite s a, .finite t b => addFinite s a t b

/-- The product, rounded once. Zero times infinity has none. -/
def mul : Binary64 → Binary64 → Binary64
  | .nan, _ => .nan
  | _, .nan => .nan
  | .infinite s, .infinite t => .infinite (s != t)
  | .infinite s, .finite t b => if b.units = 0 then .nan else .infinite (s != t)
  | .finite s a, .infinite t => if a.units = 0 then .nan else .infinite (s != t)
  | .finite s a, .finite t b => ofQuotient (s != t) (a.units * b.units) unitsPerOne

/-- The quotient, rounded once. Zero by zero and infinity by infinity have none. -/
def div : Binary64 → Binary64 → Binary64
  | .nan, _ => .nan
  | _, .nan => .nan
  | .infinite _, .infinite _ => .nan
  | .infinite s, .finite t _ => .infinite (s != t)
  | .finite s _, .infinite t => .finite (s != t) .zero
  | .finite s a, .finite t b =>
    if b.units = 0 then
      if a.units = 0 then .nan else .infinite (s != t)
    else
      ofQuotient (s != t) (a.units * unitsPerOne) b.units

instance : Add Binary64 := ⟨add⟩
instance : Mul Binary64 := ⟨mul⟩
instance : Div Binary64 := ⟨div⟩

/-- The nearest integer, a half going to the even one. The sign stays, also that of a zero result.
-/
def roundToInteger : Binary64 → Binary64
  | .nan => .nan
  | .infinite s => .infinite s
  | .finite s a => ofQuotient s (halfEven a.units unitsPerOne * unitsPerOne) 1

end Binary64

end TrickScore
