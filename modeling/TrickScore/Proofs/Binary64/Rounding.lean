import Mathlib.Tactic.SplitIfs
import TrickScore.Binary64.Basic

/-!
# Rounding to the grid

What `roundToGrid` does to a quotient, in a form that later proofs can use without looking at bits.
The spacing depends on the quotient, so two quotients may be rounded on different grids; powers of
two stand on every coarser grid up to themselves, and that is what keeps the roundings in order.

Headlines:
* `halfEven_eq_of_near`: a quotient less than a half away from an integer is rounded to it.
* `roundToGrid_mono_left`: a larger quotient is never rounded lower.
* `roundToGrid_mul_self`, `le_roundToGrid`, `roundToGrid_le`: a grid point is its own rounding, so
  rounding never passes one.
* `roundToGrid_add_of_lt`: what is less than half a step beyond a grid point is rounded away.
* `two_mul_roundToGrid_le`, `le_two_mul_roundToGrid`: rounding moves a quotient by half a step of
  the result at most.
-/

namespace TrickScore.Binary64

/-! ## Quotients rounded half to even -/

/-- Only the quotient counts, not how it is written. -/
theorem halfEven_mul_right (num den : Nat) {k : Nat} (hk : 0 < k) :
    halfEven (num * k) (den * k) = halfEven num den := by
  have htwice : 2 * (num * k % (den * k)) = 2 * (num % den) * k := by
    rw [Nat.mul_mod_mul_right, Nat.mul_assoc]
  simp only [halfEven, Nat.mul_div_mul_right _ _ hk, htwice, Nat.mul_lt_mul_right hk]

theorem halfEven_zero (den : Nat) : halfEven 0 den = 0 := by
  simp [halfEven]

theorem halfEven_mono_left {num num' : Nat} (den : Nat) (h : num ≤ num') :
    halfEven num den ≤ halfEven num' den := by
  rcases Nat.lt_or_eq_of_le (Nat.div_le_div_right (c := den) h) with hwhole | hwhole
  · calc halfEven num den ≤ num / den + 1 := halfEven_le num den
      _ ≤ num' / den := hwhole
      _ ≤ halfEven num' den := le_halfEven num' den
  · -- With the same whole part, the remainders decide.
    have hrest : num % den ≤ num' % den := by
      have hsplit := Nat.div_add_mod num den
      have hsplit' := Nat.div_add_mod num' den
      rw [← hwhole] at hsplit'
      omega
    simp only [halfEven, hwhole]
    split_ifs <;> omega

/-- The whole part is kept where the rest is a half at most, and its successor is taken where the
rest is a half at least. -/
theorem halfEven_cases (num den : Nat) :
    (halfEven num den = num / den ∧ 2 * (num % den) ≤ den) ∨
      (halfEven num den = num / den + 1 ∧ den ≤ 2 * (num % den)) := by
  simp only [halfEven]
  split
  · exact Or.inl ⟨rfl, by omega⟩
  · split
    · exact Or.inr ⟨rfl, by omega⟩
    · rcases Nat.mod_two_eq_zero_or_one (num / den) with heven | hodd
      · exact Or.inl ⟨by omega, by omega⟩
      · exact Or.inr ⟨by omega, by omega⟩

/-- Rounding up adds a half at most. -/
theorem two_mul_halfEven_le (num den : Nat) :
    2 * (halfEven num den * den) ≤ 2 * num + den := by
  have hsplit := Nat.div_add_mod' num den
  rcases halfEven_cases num den with ⟨heq, hrest⟩ | ⟨heq, hrest⟩
  · rw [heq]
    omega
  · rw [heq, Nat.add_one_mul (num / den)]
    omega

/-- Rounding down takes a half at most. -/
theorem le_two_mul_halfEven (num : Nat) {den : Nat} (hden : 0 < den) :
    2 * num ≤ 2 * (halfEven num den * den) + den := by
  have hsplit := Nat.div_add_mod' num den
  have hlt := Nat.mod_lt num hden
  rcases halfEven_cases num den with ⟨heq, hrest⟩ | ⟨heq, hrest⟩
  · rw [heq]
    omega
  · rw [heq, Nat.add_one_mul (num / den)]
    omega

/-- **A quotient less than a half away from an integer is rounded to it.** -/
theorem halfEven_eq_of_near {num den n : Nat} (hbelow : 2 * num < 2 * (n * den) + den)
    (habove : 2 * (n * den) < 2 * num + den) : halfEven num den = n := by
  have hden : 0 < den := by omega
  have hle := two_mul_halfEven_le num den
  have hge := le_two_mul_halfEven num hden
  have hlt : halfEven num den * den < (n + 1) * den := by
    rw [Nat.add_one_mul]
    omega
  have hgt : n * den < (halfEven num den + 1) * den := by
    rw [Nat.add_one_mul]
    omega
  exact Nat.le_antisymm (Nat.lt_succ_iff.mp (Nat.lt_of_mul_lt_mul_right hlt))
    (Nat.lt_succ_iff.mp (Nat.lt_of_mul_lt_mul_right hgt))

/-! ## Spacings -/

theorem log2_mono {m n : Nat} (h : m ≤ n) : m.log2 ≤ n.log2 := by
  rcases Nat.eq_zero_or_pos m with rfl | hpos
  · exact Nat.zero_le _
  · exact (Nat.le_log2 (by omega)).mpr
      (Nat.le_trans (Nat.log2_self_le (Nat.ne_of_gt hpos)) h)

theorem spacing_mono {m n : Nat} (h : m ≤ n) : spacing m ≤ spacing n :=
  Nat.pow_le_pow_right (by decide) (Nat.sub_le_sub_right (log2_mono h) 52)

/-- Twice a grid point is on the grid. -/
theorem OnGrid.two_mul {n : Nat} (h : OnGrid n) : OnGrid (2 * n) := by
  rcases Nat.eq_zero_or_pos n with rfl | hpos
  · exact onGrid_zero
  have hlog : (2 * n).log2 = n.log2 + 1 := Nat.log2_two_mul (Nat.ne_of_gt hpos)
  have hdvd : 2 ^ (n.log2 - 52 + 1) ∣ 2 * n := by
    rw [Nat.pow_succ, Nat.mul_comm]
    exact Nat.mul_dvd_mul_left 2 h
  exact Nat.dvd_trans (Nat.pow_dvd_pow 2 (by omega)) hdvd

/-! ## Rounding -/

/-- Only the quotient counts, not how it is written. -/
theorem roundToGrid_mul_right (num den : Nat) {k : Nat} (hk : 0 < k) :
    roundToGrid (num * k) (den * k) = roundToGrid num den := by
  simp only [roundToGrid, Nat.mul_div_mul_right _ _ hk, Nat.mul_right_comm den k,
    halfEven_mul_right _ _ hk]

theorem roundToGrid_zero (den : Nat) : roundToGrid 0 den = 0 := by
  rw [roundToGrid, halfEven_zero, Nat.mul_zero]

/-- A power of two counts as many steps of a quotient below it as there are places between. -/
theorem spacing_mul_two_pow {q : Nat} {e : Nat} (he : q.log2 ≤ e) :
    spacing q * 2 ^ (e - (q.log2 - 52)) = 2 ^ e := by
  rw [spacing, ← Nat.pow_add]
  congr 1
  omega

/-- Rounding does not pass the next power of two. -/
theorem roundToGrid_le_two_pow (num den : Nat) :
    roundToGrid num den ≤ 2 ^ ((num / den).log2 + 1) := by
  have hpow := spacing_mul_two_pow (Nat.le_succ (num / den).log2)
  have hwhole : num / (den * spacing (num / den)) <
      2 ^ ((num / den).log2 + 1 - ((num / den).log2 - 52)) := by
    rw [← Nat.div_div_eq_div_mul]
    apply Nat.div_lt_of_lt_mul
    rw [hpow]
    exact Nat.lt_log2_self
  rw [← hpow]
  exact Nat.mul_le_mul_left _ (Nat.le_trans (halfEven_le _ _) hwhole)

/-- Rounding does not fall below the last power of two. -/
theorem two_pow_le_roundToGrid {num den : Nat} (h : num / den ≠ 0) :
    2 ^ (num / den).log2 ≤ roundToGrid num den := by
  have hpow := spacing_mul_two_pow (Nat.le_refl (num / den).log2)
  have hwhole : 2 ^ ((num / den).log2 - ((num / den).log2 - 52)) ≤
      num / (den * spacing (num / den)) := by
    rw [← Nat.div_div_eq_div_mul, Nat.le_div_iff_mul_le (spacing_pos _), Nat.mul_comm, hpow]
    exact Nat.log2_self_le h
  rw [← hpow]
  exact Nat.mul_le_mul_left _ (Nat.le_trans hwhole (le_halfEven _ _))

/-- **A larger quotient is never rounded lower.** -/
theorem roundToGrid_mono_left {num num' : Nat} (den : Nat) (h : num ≤ num') :
    roundToGrid num den ≤ roundToGrid num' den := by
  have hlog := log2_mono (Nat.div_le_div_right (c := den) h)
  by_cases hsame : spacing (num / den) = spacing (num' / den)
  · simp only [roundToGrid, hsame]
    exact Nat.mul_le_mul_left _ (halfEven_mono_left _ h)
  · -- On a coarser grid the larger one is not below a power of two that the smaller does not pass.
    have hlt : (num / den).log2 < (num' / den).log2 := by
      refine Nat.lt_of_le_of_ne hlog fun heq => hsame ?_
      rw [spacing, spacing, heq]
    have hne : num' / den ≠ 0 := by
      intro hzero
      rw [hzero] at hlt
      exact Nat.not_lt_zero _ hlt
    calc roundToGrid num den ≤ 2 ^ ((num / den).log2 + 1) := roundToGrid_le_two_pow num den
      _ ≤ 2 ^ (num' / den).log2 := Nat.pow_le_pow_right (by decide) hlt
      _ ≤ roundToGrid num' den := two_pow_le_roundToGrid hne

/-! ## Grid points -/

/-- **A grid point is its own rounding**, however the quotient is written. -/
theorem roundToGrid_mul_self {n : Nat} (h : OnGrid n) {den : Nat} (hden : 0 < den) :
    roundToGrid (n * den) den = n := by
  have hone := roundToGrid_mul_right n 1 hden
  rw [Nat.one_mul] at hone
  rw [hone, roundToGrid_of_onGrid h]

/-- A quotient that reaches a grid point is not rounded below it. -/
theorem le_roundToGrid {n num den : Nat} (hgrid : OnGrid n) (hden : 0 < den)
    (h : n * den ≤ num) : n ≤ roundToGrid num den := by
  have hmono := roundToGrid_mono_left den h
  rwa [roundToGrid_mul_self hgrid hden] at hmono

/-- A quotient that does not pass a grid point is not rounded above it. -/
theorem roundToGrid_le {n num den : Nat} (hgrid : OnGrid n) (hden : 0 < den)
    (h : num ≤ n * den) : roundToGrid num den ≤ n := by
  have hmono := roundToGrid_mono_left den h
  rwa [roundToGrid_mul_self hgrid hden] at hmono

/-! ## How far rounding goes -/

/-- The grid is not finer where the result stands. -/
theorem spacing_le_spacing_roundToGrid (num den : Nat) :
    spacing (num / den) ≤ spacing (roundToGrid num den) := by
  by_cases hzero : num / den = 0
  · rw [hzero]
    exact Nat.succ_le_of_lt (spacing_pos _)
  · have hle := log2_mono (two_pow_le_roundToGrid hzero)
    rw [Nat.log2_two_pow] at hle
    exact Nat.pow_le_pow_right (by decide) (Nat.sub_le_sub_right hle 52)

/-- Rounding a quotient is rounding it to an integer, counted in its spacing. -/
theorem roundToGrid_mul (num den : Nat) :
    roundToGrid num den * den =
      halfEven num (den * spacing (num / den)) * (den * spacing (num / den)) := by
  simp only [roundToGrid]
  rw [Nat.mul_comm den, ← Nat.mul_assoc, Nat.mul_comm (halfEven _ _)]

/-- Rounding up adds half a step of the result at most. -/
theorem two_mul_roundToGrid_le (num den : Nat) :
    2 * (roundToGrid num den * den) ≤ 2 * num + den * spacing (roundToGrid num den) := by
  have hhalf := two_mul_halfEven_le num (den * spacing (num / den))
  have hstep := Nat.mul_le_mul_left den (spacing_le_spacing_roundToGrid num den)
  rw [roundToGrid_mul]
  omega

/-- Rounding down takes half a step of the result at most. -/
theorem le_two_mul_roundToGrid (num : Nat) {den : Nat} (hden : 0 < den) :
    2 * num ≤ 2 * (roundToGrid num den * den) + den * spacing (roundToGrid num den) := by
  have hhalf := le_two_mul_halfEven num (Nat.mul_pos hden (spacing_pos (num / den)))
  have hstep := Nat.mul_le_mul_left den (spacing_le_spacing_roundToGrid num den)
  rw [roundToGrid_mul]
  omega

/-- **What is less than half a step beyond a grid point is rounded away.** -/
theorem roundToGrid_add_of_lt {n rest : Nat} (hgrid : OnGrid n) (h : 2 * rest < spacing n) :
    roundToGrid (n + rest) 1 = n := by
  rcases Nat.eq_zero_or_pos rest with rfl | hrest
  · exact roundToGrid_of_onGrid hgrid
  obtain ⟨k, hk⟩ := hgrid
  have hne : n ≠ 0 := by
    rintro rfl
    simp [spacing] at h
    omega
  -- No power of two stands between a grid point and the next, so the spacing stays.
  have hlog : (n + rest).log2 = n.log2 := by
    have hpow := spacing_mul_two_pow (Nat.le_succ n.log2)
    have hlt : k < 2 ^ (n.log2 + 1 - (n.log2 - 52)) := by
      refine Nat.lt_of_mul_lt_mul_left (a := spacing n) ?_
      rw [← hk, hpow]
      exact Nat.lt_log2_self
    have hnext : n + spacing n ≤ 2 ^ (n.log2 + 1) := by
      rw [← hpow]
      calc n + spacing n = spacing n * (k + 1) := by rw [Nat.mul_succ, ← hk]
        _ ≤ spacing n * 2 ^ (n.log2 + 1 - (n.log2 - 52)) := Nat.mul_le_mul_left _ hlt
    refine Nat.le_antisymm (Nat.lt_succ_iff.mp ?_) (log2_mono (Nat.le_add_right n rest))
    rw [Nat.log2_lt (by omega)]
    omega
  have hspacing : spacing (n + rest) = spacing n := by rw [spacing, hlog, spacing]
  have hcount : halfEven (n + rest) (spacing n) = k := by
    have hkn : k * spacing n = n := by rw [Nat.mul_comm, ← hk]
    exact halfEven_eq_of_near (by omega) (by omega)
  simp only [roundToGrid, Nat.div_one, Nat.one_mul, hspacing, hcount]
  exact hk.symm

end TrickScore.Binary64
