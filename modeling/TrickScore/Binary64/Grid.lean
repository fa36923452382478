/-!
# The binary64 grid

Magnitudes are counted in units of `2 ^ (-1074)`, the least positive binary64 number, so every
finite one is a natural number of units. A natural number lies on the grid when only its leading 53
bits are used. `roundToGrid` takes an exact quotient to the nearest grid point, and every operation
on binary64 numbers is an exact quotient followed by this one rounding.

Headlines:
* `onGrid_two_pow_mul`: a significand of at most 53 bits, shifted left, is on the grid.
* `onGrid_roundToGrid`: rounding ends on the grid.
-/

-- Powers of natural numbers are core's in every module, also beside a library with its own.
attribute [instance (2000), default_instance (20000)] instPowNat

namespace TrickScore.Binary64

/-! ## Quotients rounded half to even -/

/-- The integer nearest to `num / den`; a half goes to the even neighbour. -/
def halfEven (num den : Nat) : Nat :=
  let whole := num / den
  let twice := 2 * (num % den)
  if twice < den then whole
  else if den < twice then whole + 1
  else whole + whole % 2

theorem le_halfEven (num den : Nat) : num / den ≤ halfEven num den := by
  simp only [halfEven]
  split
  · exact Nat.le_refl _
  · split <;> omega

theorem halfEven_le (num den : Nat) : halfEven num den ≤ num / den + 1 := by
  simp only [halfEven]
  split
  · omega
  · split <;> omega

/-- A quotient without remainder is kept. -/
theorem halfEven_mul_self (n : Nat) {den : Nat} (h : 0 < den) : halfEven (n * den) den = n := by
  simp [halfEven, Nat.mul_div_cancel n h, h]

/-! ## Grid points -/

/-- The least positive number is two to minus this power. -/
def leastPlace : Nat :=
  1074

/-- How many units of `2 ^ (-1074)` make one. -/
def unitsPerOne : Nat :=
  2 ^ leastPlace

theorem unitsPerOne_pos : 0 < unitsPerOne :=
  Nat.two_pow_pos leastPlace

/-- The first magnitude past the finite ones, `2 ^ 1024`. -/
def limit : Nat :=
  2 ^ (1024 + leastPlace)

theorem limit_pos : 0 < limit :=
  Nat.two_pow_pos (1024 + leastPlace)

/-- The distance between neighbouring grid points at `n`: 1 below `2 ^ 53`, doubling with every
further bit. -/
def spacing (n : Nat) : Nat :=
  2 ^ (n.log2 - 52)

theorem spacing_pos (n : Nat) : 0 < spacing n :=
  Nat.two_pow_pos _

/-- `n` units are on the grid: the bits below the leading 53 are zero. -/
def OnGrid (n : Nat) : Prop :=
  spacing n ∣ n

instance (n : Nat) : Decidable (OnGrid n) :=
  inferInstanceAs (Decidable (spacing n ∣ n))

theorem onGrid_zero : OnGrid 0 :=
  Nat.dvd_zero _

/-- **A significand of at most 53 bits, shifted left, is on the grid.** -/
theorem onGrid_two_pow_mul {s : Nat} (e : Nat) (hs : s ≤ 2 ^ 53) : OnGrid (2 ^ e * s) := by
  rcases Nat.eq_zero_or_pos s with rfl | hpos
  · exact onGrid_zero
  have hne : 2 ^ e * s ≠ 0 := Nat.ne_of_gt (Nat.mul_pos (Nat.two_pow_pos e) hpos)
  rcases Nat.lt_or_eq_of_le hs with hlt | rfl
  · have hlog : (2 ^ e * s).log2 < e + 53 := by
      rw [Nat.log2_lt hne, Nat.pow_add]
      exact Nat.mul_lt_mul_of_pos_left hlt (Nat.two_pow_pos e)
    exact Nat.dvd_trans (Nat.pow_dvd_pow 2 (by omega)) (Nat.dvd_mul_right (2 ^ e) s)
  · have hlog : (2 ^ e * 2 ^ 53).log2 < e + 54 := by
      rw [Nat.log2_lt hne, ← Nat.pow_add]
      exact Nat.pow_lt_pow_right (by omega) (by omega)
    rw [OnGrid, spacing, ← Nat.pow_add]
    exact Nat.pow_dvd_pow 2 (by rw [Nat.pow_add]; omega)

/-- The grid point nearest to `num / den`; a half goes to the neighbour with an even last bit. -/
def roundToGrid (num den : Nat) : Nat :=
  let step := spacing (num / den)
  step * halfEven num (den * step)

/-- A quotient has at most 53 bits before the point when it is counted in its own spacing. -/
theorem div_mul_spacing_lt (num den : Nat) : num / (den * spacing (num / den)) < 2 ^ 53 := by
  rw [← Nat.div_div_eq_div_mul]
  apply Nat.div_lt_of_lt_mul
  rw [spacing, ← Nat.pow_add]
  exact Nat.lt_of_lt_of_le Nat.lt_log2_self (Nat.pow_le_pow_right (by omega) (by omega))

/-- **Rounding ends on the grid.** -/
theorem onGrid_roundToGrid (num den : Nat) : OnGrid (roundToGrid num den) :=
  onGrid_two_pow_mul _
    (Nat.le_trans (halfEven_le _ _) (Nat.succ_le_of_lt (div_mul_spacing_lt num den)))

/-- **A grid point is its own rounding.** -/
theorem roundToGrid_of_onGrid {n : Nat} (h : OnGrid n) : roundToGrid n 1 = n := by
  obtain ⟨k, hk⟩ := h
  have hcount : halfEven n (spacing n) = k := by
    conv => lhs; arg 1; rw [hk, Nat.mul_comm]
    exact halfEven_mul_self k (spacing_pos n)
  simp only [roundToGrid, Nat.div_one, Nat.one_mul, hcount]
  exact hk.symm

end TrickScore.Binary64
