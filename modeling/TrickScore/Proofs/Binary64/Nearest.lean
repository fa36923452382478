import Mathlib.Algebra.Order.Field.Basic
import Mathlib.Algebra.Order.Field.Rat
import Mathlib.Algebra.Order.Ring.Abs
import Mathlib.Tactic.FieldSimp
import Mathlib.Tactic.Linarith
import TrickScore.Proofs.Binary64.Order

/-!
# Exact values

A finite number stands for a rational number: its units, over the units that make one. What a
quotient is rounded to is nearest to it among all finite numbers, not only among those of its own
spacing: the finer ones stand below the last power of two, which is a point of every grid, and the
coarser ones above the next.

Headlines:
* `OnGrid.add_spacing_le`, `OnGrid.le_wholeSteps`: where the neighbours of a grid point stand.
* `roundToGrid_eq_of_near`: what is less than half a step away from a grid point is rounded to it.
* **`isNearest_finite`**: no other finite number is as near to a quotient as what it is rounded to,
  unless the quotient is halfway between two.
* `isHalfEven_halfEven`: `halfEven` is the nearest integer, the even one of two.
-/

namespace TrickScore.Binary64

/-! ## Neighbours on the grid -/

theorem spacing_dvd_spacing {m n : Nat} (h : m ≤ n) : spacing m ∣ spacing n :=
  Nat.pow_dvd_pow 2 (Nat.sub_le_sub_right (log2_mono h) 52)

/-- **Above a grid point the next is a whole step away.** -/
theorem OnGrid.add_spacing_le {n y : Nat} (hn : OnGrid n) (hy : OnGrid y) (h : n < y) :
    n + spacing n ≤ y := by
  have hdvd : spacing n ∣ y - n :=
    Nat.dvd_sub (Nat.dvd_trans (spacing_dvd_spacing (Nat.le_of_lt h)) hy) hn
  have hle := Nat.le_of_dvd (Nat.sub_pos_of_lt h) hdvd
  omega

/-- **Below a number the last grid point is the whole number of its steps.** -/
theorem OnGrid.le_wholeSteps {y q : Nat} (hy : OnGrid y) (h : y ≤ q) :
    y ≤ q / spacing q * spacing q := by
  by_cases hlog : y.log2 = q.log2
  · have hsame : spacing y = spacing q := by rw [spacing, hlog, spacing]
    unfold OnGrid at hy
    rw [hsame] at hy
    calc y = y / spacing q * spacing q := (Nat.div_mul_cancel hy).symm
      _ ≤ q / spacing q * spacing q := Nat.mul_le_mul_right _ (Nat.div_le_div_right h)
  · -- A power of two stands between them, and it is a whole number of steps.
    have hlt : y.log2 < q.log2 := Nat.lt_of_le_of_ne (log2_mono h) hlog
    have hq : q ≠ 0 := by
      rintro rfl
      exact Nat.not_lt_zero _ hlt
    have hpow := spacing_mul_two_pow (Nat.le_refl q.log2)
    have hcount : 2 ^ (q.log2 - (q.log2 - 52)) ≤ q / spacing q := by
      rw [Nat.le_div_iff_mul_le (spacing_pos q), Nat.mul_comm, hpow]
      exact Nat.log2_self_le hq
    calc y ≤ 2 ^ (y.log2 + 1) := Nat.le_of_lt Nat.lt_log2_self
      _ ≤ 2 ^ q.log2 := Nat.pow_le_pow_right (by decide) hlt
      _ = 2 ^ (q.log2 - (q.log2 - 52)) * spacing q := by rw [Nat.mul_comm, hpow]
      _ ≤ q / spacing q * spacing q := Nat.mul_le_mul_right _ hcount

theorem log2_mul_two_pow {n : Nat} (h : n ≠ 0) (e : Nat) : (n * 2 ^ e).log2 = n.log2 + e := by
  have hne : n * 2 ^ e ≠ 0 := Nat.mul_ne_zero h (Nat.ne_of_gt (Nat.two_pow_pos e))
  rw [Nat.log2_eq_iff hne, Nat.add_right_comm, Nat.pow_add, Nat.pow_add]
  exact ⟨Nat.mul_le_mul_right _ (Nat.log2_self_le h),
    Nat.mul_lt_mul_of_pos_right Nat.lt_log2_self (Nat.two_pow_pos e)⟩

/-- **Numbers are rounded the same in whatever unit**: a smaller one puts zeros behind. -/
theorem roundToGrid_mul_two_pow (n e : Nat) :
    roundToGrid (n * 2 ^ e) 1 = roundToGrid n 1 * 2 ^ e := by
  by_cases hle : n ≤ 2 ^ 53
  · have hgrid : ∀ e, OnGrid (n * 2 ^ e) := fun e => Nat.mul_comm n _ ▸ onGrid_two_pow_mul e hle
    have hn := hgrid 0
    rw [Nat.pow_zero, Nat.mul_one] at hn
    rw [roundToGrid_of_onGrid (hgrid e), roundToGrid_of_onGrid hn]
  · have hne : n ≠ 0 := by omega
    have hlog : 52 ≤ n.log2 := (Nat.le_log2 hne).mpr (by omega)
    have hspacing : spacing (n * 2 ^ e) = spacing n * 2 ^ e := by
      rw [spacing, log2_mul_two_pow hne, Nat.sub_add_comm hlog, Nat.pow_add, spacing]
    simp only [roundToGrid, Nat.div_one, Nat.one_mul, hspacing,
      halfEven_mul_right _ _ (Nat.two_pow_pos e), Nat.mul_right_comm]

/-- A step is one unit, or fits 53 bits of the number above it. -/
theorem spacing_mul_le (n : Nat) : spacing n * 2 ^ 52 ≤ n + 2 ^ 52 := by
  by_cases hlog : n.log2 < 52
  · rw [spacing, Nat.sub_eq_zero_of_le (Nat.le_of_lt hlog)]
    omega
  · have hne : n ≠ 0 := by
      rintro rfl
      exact hlog (by decide)
    rw [spacing, ← Nat.pow_add, Nat.sub_add_cancel (Nat.not_lt.mp hlog)]
    exact Nat.le_trans (Nat.log2_self_le hne) (Nat.le_add_right n _)

section Rounding

variable {num den y : Nat} (hden : 0 < den) (hy : OnGrid y)
include hden hy

/-- A quotient does not pass the middle between its rounding and a grid point above. -/
theorem two_mul_le_of_roundToGrid_lt (h : roundToGrid num den < y) :
    2 * num ≤ (roundToGrid num den + y) * den := by
  have hhalf := le_two_mul_roundToGrid num hden
  have hnext := Nat.mul_le_mul_right den ((onGrid_roundToGrid num den).add_spacing_le hy h)
  rw [Nat.add_mul, Nat.mul_comm (spacing _)] at hnext
  rw [Nat.add_mul]
  omega

/-- A quotient does not fall below the middle between its rounding and a grid point below. -/
theorem le_two_mul_of_lt_roundToGrid (h : y < roundToGrid num den) :
    (roundToGrid num den + y) * den ≤ 2 * num := by
  have hbelow : y ≤ num / den := by
    by_contra hpast
    have hle : num ≤ y * den :=
      Nat.le_of_lt ((Nat.div_lt_iff_lt_mul hden).mp (Nat.not_le.mp hpast))
    exact absurd (roundToGrid_le hy hden hle) (Nat.not_le.mpr h)
  have hwhole := Nat.mul_le_mul_right den (hy.le_wholeSteps hbelow)
  have hsplit := Nat.div_add_mod' num (den * spacing (num / den))
  rw [Nat.div_div_eq_div_mul, Nat.mul_assoc, Nat.mul_comm (spacing _)] at hwhole
  rw [Nat.add_mul, roundToGrid_mul]
  rcases halfEven_cases num (den * spacing (num / den)) with ⟨heq, -⟩ | ⟨heq, hrest⟩
  · rw [heq]
    omega
  · rw [heq, Nat.add_one_mul (num / _)]
    omega

end Rounding

/-- **What is less than half a step away from a grid point is rounded to it**, unless that is a
power of two, below which the steps are smaller. -/
theorem roundToGrid_eq_of_near {n num den : Nat} (hden : 0 < den) (hn : OnGrid n)
    (hpow : 2 ^ n.log2 < n) (habove : 2 * num < 2 * (n * den) + den * spacing n)
    (hbelow : 2 * (n * den) < 2 * num + den * spacing n) : roundToGrid num den = n := by
  rcases Nat.lt_trichotomy (roundToGrid num den) n with hlt | heq | hgt
  · -- Between the last power of two and the point the rounding would be a whole step lower.
    have hgrid : OnGrid (2 ^ n.log2) := by
      have hone := onGrid_two_pow_mul n.log2 (by decide : 1 ≤ 2 ^ 53)
      rwa [Nat.mul_one] at hone
    have hspacing : ∀ {y}, 2 ^ n.log2 ≤ y → y < n → spacing y = spacing n := by
      intro y hle hlt
      have hlog := log2_mono hle
      rw [Nat.log2_two_pow] at hlog
      rw [spacing, Nat.le_antisymm (log2_mono (Nat.le_of_lt hlt)) hlog, spacing]
    have hstep : ∀ {y}, OnGrid y → 2 ^ n.log2 ≤ y → y < n →
        y * den + den * spacing n ≤ n * den := by
      intro y hy hle hlt
      rw [Nat.mul_comm den, ← Nat.add_mul, ← hspacing hle hlt]
      exact Nat.mul_le_mul_right den (hy.add_spacing_le hn hlt)
    have hpast : 2 ^ n.log2 ≤ roundToGrid num den := by
      have hnext := hstep hgrid (Nat.le_refl _) hpow
      exact le_roundToGrid hgrid hden (by omega)
    have hnext := hstep (onGrid_roundToGrid num den) hpast hlt
    have hmiddle := two_mul_le_of_roundToGrid_lt hden hn hlt
    rw [Nat.add_mul] at hmiddle
    omega
  · exact heq
  · have hnext := Nat.mul_le_mul_right den (hn.add_spacing_le (onGrid_roundToGrid num den) hgt)
    have hmiddle := le_two_mul_of_lt_roundToGrid hden hn hgt
    rw [Nat.add_mul, Nat.mul_comm (spacing n)] at hnext
    rw [Nat.add_mul] at hmiddle
    omega

/-! ## Values -/

/-- The number is neither infinite nor NaN. -/
def IsFinite (x : Binary64) : Prop :=
  ∃ negative magnitude, x = .finite negative magnitude

/-- The exact value of a finite number. Both zeros have the value 0; an infinite number has none,
and what is put here is where it stands in the order. -/
def value (x : Binary64) : ℚ :=
  x.position / unitsPerOne

/-- **The finite number nearest to `q`.** Only another zero may be as near. -/
structure IsNearest (q : ℚ) (x : Binary64) : Prop where
  finite : x.IsFinite
  nearest : ∀ y : Binary64, y.IsFinite → y.value ≠ x.value → |x.value - q| < |y.value - q|

theorem isFinite_finite (s : Bool) (m : Magnitude) : (Binary64.finite s m).IsFinite :=
  ⟨s, m, rfl⟩

theorem position_finite (s : Bool) (m : Magnitude) :
    (Binary64.finite s m).position = signed s m.units :=
  rfl

theorem unitsPerOne_pos_rat : (0 : ℚ) < unitsPerOne :=
  Nat.cast_pos.mpr unitsPerOne_pos

/-- Distances are compared as integers, counted in the denominator's parts of a unit. -/
theorem abs_value_sub_mul (x : Binary64) {q : ℚ} {n : Int} {den : Nat} (hden : 0 < den)
    (hq : q * (den * unitsPerOne) = n) :
    |x.value - q| * (den * unitsPerOne) = |x.position * den - n| := by
  have hone := unitsPerOne_pos_rat
  have hpos : (0 : ℚ) < den * unitsPerOne := mul_pos (Nat.cast_pos.mpr hden) hone
  have hvalue : x.value * (den * unitsPerOne) = x.position * den := by
    unfold value
    field_simp
  rw [← abs_of_pos hpos, ← abs_mul, sub_mul, hvalue, hq]
  push_cast
  rfl

theorem signed_mul (s : Bool) (n k : Nat) : signed s n * k = signed s (n * k) := by
  cases s <;> simp [signed]

/-- The nearer of two numbers stays the nearer one when they are given signs. -/
theorem abs_signed_sub_lt {s t : Bool} {near far n : Nat} (hne : signed t far ≠ signed s near)
    (hzero : near ≤ 2 * n) (habove : near < far → 2 * n < near + far)
    (hbelow : far < near → near + far < 2 * n) :
    |signed s near - signed s n| < |signed t far - signed s n| := by
  rw [Int.abs_eq_natAbs, Int.abs_eq_natAbs]
  cases s <;> cases t <;>
    simp only [signed, if_true, if_false, Bool.false_eq_true] at hne ⊢ <;> omega

/-- **No other number of units on the grid is as near to a quotient as its rounding**, whichever
signs they have, unless the quotient is halfway between them. -/
theorem signed_nearest {s t : Bool} {num den y : Nat} (hden : 0 < den) (hy : OnGrid y)
    (hne : signed t y ≠ signed s (roundToGrid num den))
    (htie : 2 * num = (roundToGrid num den + y) * den → y = roundToGrid num den) :
    |signed s (roundToGrid num den) * den - signed s num| < |signed t y * den - signed s num| := by
  rw [signed_mul, signed_mul]
  refine abs_signed_sub_lt (fun h => hne ?_) ?_ (fun h => ?_) (fun h => ?_)
  · rw [← signed_mul, ← signed_mul] at h
    exact Int.eq_of_mul_eq_mul_right (Int.natCast_ne_zero.mpr (Nat.ne_of_gt hden)) h
  · rcases Nat.eq_zero_or_pos (roundToGrid num den) with hzero | hpos
    · simp [hzero]
    · simpa using le_two_mul_of_lt_roundToGrid hden onGrid_zero hpos
  · have hlt := Nat.lt_of_mul_lt_mul_right h
    have hle := two_mul_le_of_roundToGrid_lt hden hy hlt
    rw [← Nat.add_mul]
    exact Nat.lt_of_le_of_ne hle fun heq => Nat.ne_of_gt hlt (htie heq)
  · have hlt := Nat.lt_of_mul_lt_mul_right h
    have hle := le_two_mul_of_lt_roundToGrid hden hy hlt
    rw [← Nat.add_mul]
    exact Nat.lt_of_le_of_ne hle fun heq => Nat.ne_of_lt hlt (htie heq.symm)

/-- **What a quotient is rounded to is the finite number nearest to it**, unless it is halfway
between two. -/
theorem isNearest_finite {s : Bool} {m : Magnitude} {q : ℚ} {num den : Nat} (hden : 0 < den)
    (hq : q * (den * unitsPerOne) = signed s num) (hm : m.units = roundToGrid num den)
    (htie : ∀ y, OnGrid y → 2 * num = (m.units + y) * den → y = m.units) :
    IsNearest q (.finite s m) := by
  refine ⟨isFinite_finite s m, ?_⟩
  rintro _ ⟨t, y, rfl⟩ hne
  have hpos : (0 : ℚ) < den * unitsPerOne := mul_pos (Nat.cast_pos.mpr hden) unitsPerOne_pos_rat
  rw [← mul_lt_mul_iff_of_pos_right hpos, abs_value_sub_mul _ hden hq, abs_value_sub_mul _ hden hq,
    Int.cast_lt, position_finite, position_finite, hm]
  rw [hm] at htie
  refine signed_nearest hden y.onGrid (fun h => hne ?_) (htie y.units y.onGrid)
  rw [value, value, position_finite, position_finite, hm, h]

/-- The size of a number, in ones. -/
theorem abs_value_finite (s : Bool) (m : Magnitude) :
    |(Binary64.finite s m).value| = m.units / unitsPerOne := by
  have hle : (0 : ℚ) ≤ m.units / unitsPerOne := by positivity
  cases s with
  | false => exact abs_of_nonneg hle
  | true =>
    rw [value, position_finite, signed, if_pos rfl, Int.cast_neg, neg_div, abs_neg]
    exact abs_of_nonneg hle

/-- A bound of the value is one of the units. -/
theorem abs_value_finite_le_iff (s : Bool) (m : Magnitude) (n : Nat) :
    |(Binary64.finite s m).value| ≤ n ↔ m.units ≤ n * unitsPerOne := by
  rw [abs_value_finite, div_le_iff₀ unitsPerOne_pos_rat, ← Nat.cast_mul, Nat.cast_le]

/-! ## Integers -/

/-- Rounding to an integer stays on the grid: above `2 ^ 53` all grid points are integers. -/
theorem onGrid_halfEven {n : Nat} (h : OnGrid n) :
    OnGrid (halfEven n unitsPerOne * unitsPerOne) := by
  by_cases hle : n ≤ 2 ^ 53 * unitsPerOne
  · have hcount := halfEven_mono_left unitsPerOne hle
    rw [halfEven_mul_self _ unitsPerOne_pos] at hcount
    exact (representable_of_le hcount).onGrid
  · have hone : unitsPerOne ∣ spacing (2 ^ 53 * unitsPerOne) := by
      rw [unitsPerOne, ← Nat.pow_add, spacing, Nat.log2_two_pow]
      exact Nat.pow_dvd_pow 2 (by decide)
    have hstep := spacing_dvd_spacing (Nat.le_of_not_le hle)
    obtain ⟨k, hk⟩ := Nat.dvd_trans hone (Nat.dvd_trans hstep h)
    rw [Nat.mul_comm] at hk
    rw [hk, halfEven_mul_self k unitsPerOne_pos, ← hk]
    exact h

/-- **The integer nearest to `q`**, the even one of two. -/
structure IsHalfEven (q : ℚ) (k : Int) : Prop where
  near : |q - k| ≤ 1 / 2
  even : |q - k| = 1 / 2 → Even k

theorem IsHalfEven.neg {q : ℚ} {k : Int} (h : IsHalfEven q k) : IsHalfEven (-q) (-k) := by
  have hsame : |-q - (-k : Int)| = |q - k| := by
    rw [Int.cast_neg, neg_sub_neg, abs_sub_comm]
  exact ⟨hsame ▸ h.near, fun htie => (h.even (hsame ▸ htie)).neg⟩

/-- Of two integers that are equally near the even one is taken. -/
theorem even_halfEven {num den : Nat} (hden : 0 < den)
    (h : 2 * num = 2 * (halfEven num den * den) + den ∨
      2 * (halfEven num den * den) = 2 * num + den) : Even (halfEven num den) := by
  have hsplit := Nat.div_add_mod' num den
  have hlt := Nat.mod_lt num hden
  have hrest : 2 * (num % den) = den := by
    rcases halfEven_cases num den with ⟨heq, hrest⟩ | ⟨heq, hrest⟩
    · rw [heq] at h
      omega
    · rw [heq, Nat.add_one_mul (num / den)] at h
      omega
  rw [halfEven, if_neg (by omega), if_neg (by omega), Nat.even_iff]
  omega

/-- **A quotient is rounded to the nearest integer**, and to the even one of two. -/
theorem isHalfEven_halfEven (num : Nat) {den : Nat} (hden : 0 < den) :
    IsHalfEven (num / den) (halfEven num den) := by
  have hpos : (0 : ℚ) < den := Nat.cast_pos.mpr hden
  have hsub : (num / den - (halfEven num den : Int) : ℚ) =
      (num - halfEven num den * den) / den := by
    rw [Int.cast_natCast, sub_div, mul_div_cancel_right₀ _ hpos.ne']
  constructor
  · have hle : (2 * (halfEven num den * den) : ℚ) ≤ 2 * num + den :=
      mod_cast two_mul_halfEven_le num den
    have hge : (2 * num : ℚ) ≤ 2 * (halfEven num den * den) + den :=
      mod_cast le_two_mul_halfEven num hden
    rw [hsub, abs_le, div_le_iff₀ hpos, le_div_iff₀ hpos]
    constructor <;> linarith
  · intro htie
    refine (Int.even_coe_nat _).mpr (even_halfEven hden ?_)
    rw [hsub, abs_div, abs_of_pos hpos, div_eq_iff hpos.ne'] at htie
    rcases (abs_eq (by linarith)).mp htie with h | h
    · left
      have heq : (2 * num : ℚ) = 2 * (halfEven num den * den) + den := by linarith
      exact_mod_cast heq
    · right
      have heq : (2 * (halfEven num den * den) : ℚ) = 2 * num + den := by linarith
      exact_mod_cast heq

/-- The same with a sign. -/
theorem isHalfEven_signed (s : Bool) (num : Nat) {den : Nat} (hden : 0 < den) :
    IsHalfEven (signed s num / den) (signed s (halfEven num den)) := by
  cases s with
  | false => exact isHalfEven_halfEven num hden
  | true =>
    have hneg := (isHalfEven_halfEven num hden).neg
    rw [← neg_div] at hneg
    simpa [signed] using hneg

end TrickScore.Binary64
