import TrickScore.Proofs.Binary64.Nearest
import TrickScore.Proofs.Sequence.Growth

/-!
# Two decimals

A total becomes a difficulty in three steps, of which each is rounded: it is taken a hundred times,
brought to an integer, and divided by a hundred. The sign stays, so the steps are functions of the
units of the total: `scaledUnits`, `hundredths` and `difficultyUnits`.

The first and the last step move a number by half a spacing at most. Up to `2 ^ 44` that is so
little that a difficulty, taken a hundred times again, still stands less than a half away from its
hundredths. So rounding it again changes nothing.

Headlines:
* `roundDifficulty_finite`: the difficulty of a finite total, by its units.
* `hundredths_difficultyUnits`: a difficulty has the hundredths that it was made of.
* `difficultyUnits_near`: how far a difficulty is from its total.
* **`roundDifficulty_rounds`**: a difficulty is its total, rounded to two decimals.
-/

namespace TrickScore

open Binary64 (ofNat halfEven roundToGrid spacing OnGrid Representable representable_of_le
  leastPlace unitsPerOne unitsPerOne_pos IsFinite IsNearest IsHalfEven)

/-! ## Units -/

/-- The units of a total that is taken a hundred times. -/
def scaledUnits (units : Nat) : Nat :=
  roundToGrid (units * 100) 1

/-- How many hundredths a total of so many units is rounded to. -/
def hundredths (units : Nat) : Nat :=
  halfEven (scaledUnits units) unitsPerOne

/-- The units of the difficulty of a total of so many units. -/
def difficultyUnits (units : Nat) : Nat :=
  roundToGrid (hundredths units * unitsPerOne) 100

section Bounded

variable {units bound : Nat} (hscale : Representable (bound * 100))
  (h : units ≤ bound * unitsPerOne)
include hscale h

theorem scaledUnits_le : scaledUnits units ≤ bound * 100 * unitsPerOne := by
  refine Binary64.roundToGrid_le hscale.onGrid Nat.one_pos ?_
  rw [Nat.mul_one, Nat.mul_right_comm]
  exact Nat.mul_le_mul_right 100 h

theorem hundredths_le : hundredths units ≤ bound * 100 := by
  have hmono := Binary64.halfEven_mono_left unitsPerOne (scaledUnits_le hscale h)
  rwa [Binary64.halfEven_mul_self _ unitsPerOne_pos] at hmono

theorem difficultyUnits_le (hbound : Representable bound) :
    difficultyUnits units ≤ bound * unitsPerOne := by
  refine Binary64.roundToGrid_le hbound.onGrid (by decide) ?_
  rw [Nat.mul_right_comm]
  exact Nat.mul_le_mul_right unitsPerOne (hundredths_le hscale h)

end Bounded

/-- The difficulty of a finite total in range is finite, with the same sign. Its steps are those of
the units. -/
theorem roundDifficulty_finite {bound : Nat} (hbound : Representable bound)
    (hscale : Representable (bound * 100)) (s : Bool) {m : Magnitude}
    (h : m.units ≤ bound * unitsPerOne) :
    ∃ r d : Magnitude,
      .finite s m * ofNat 100 = .finite s r ∧ r.units = scaledUnits m.units ∧
      roundDifficulty (.finite s m) = .finite s d ∧ d.units = difficultyUnits m.units := by
  have hhundred : Representable 100 := representable_of_le (by decide)
  obtain ⟨r, hr, hrunits⟩ : ∃ r : Magnitude,
      .finite s m * ofNat 100 = .finite s r ∧ r.units = scaledUnits m.units := by
    have hlt := Nat.lt_of_le_of_lt (scaledUnits_le hscale h) hscale.lt_limit
    rw [hhundred.finite_mul]
    exact ⟨_, Binary64.ofQuotient_of_lt hlt, rfl⟩
  obtain ⟨w, hw, hwunits⟩ : ∃ w : Magnitude, (Binary64.finite s r).roundToInteger = .finite s w ∧
      w.units = hundredths m.units * unitsPerOne := by
    have hgrid := Binary64.onGrid_halfEven r.onGrid
    have hlt := Nat.lt_of_le_of_lt (Nat.mul_le_mul_right unitsPerOne (hundredths_le hscale h))
      hscale.lt_limit
    rw [Binary64.roundToInteger_finite]
    rw [hrunits, ← hundredths] at hgrid ⊢
    exact ⟨⟨hundredths m.units * unitsPerOne, hgrid, hlt⟩,
      Binary64.ofQuotient_eq_finite_iff.mpr (Binary64.roundToGrid_of_onGrid hgrid), rfl⟩
  obtain ⟨d, hd, hdunits⟩ : ∃ d : Magnitude,
      .finite s w / ofNat 100 = .finite s d ∧ d.units = difficultyUnits m.units := by
    have hlt := Nat.lt_of_le_of_lt (difficultyUnits_le hscale h hbound) hbound.lt_limit
    rw [hhundred.finite_div (by decide), hwunits]
    exact ⟨_, Binary64.ofQuotient_of_lt hlt, rfl⟩
  exact ⟨r, d, hr, hrunits, by rw [roundDifficulty, hr, hw, hd], hdunits⟩

/-! ## How far the steps go -/

section Steps

variable (units : Nat)

/-- Taking a total a hundred times moves it by half a step at most. -/
theorem scaledUnits_near :
    2 * scaledUnits units ≤ 2 * (units * 100) + spacing (scaledUnits units) ∧
      2 * (units * 100) ≤ 2 * scaledUnits units + spacing (scaledUnits units) := by
  have hup := Binary64.two_mul_roundToGrid_le (units * 100) 1
  have hdown := Binary64.le_two_mul_roundToGrid (units * 100) Nat.one_pos
  rw [← scaledUnits, Nat.mul_one, Nat.one_mul] at hup hdown
  exact ⟨hup, hdown⟩

/-- The hundredths are half a one away from that at most. -/
theorem hundredths_near :
    2 * (hundredths units * unitsPerOne) ≤ 2 * scaledUnits units + unitsPerOne ∧
      2 * scaledUnits units ≤ 2 * (hundredths units * unitsPerOne) + unitsPerOne :=
  ⟨Binary64.two_mul_halfEven_le _ _, Binary64.le_two_mul_halfEven _ unitsPerOne_pos⟩

/-- Dividing them by a hundred moves them by half a step at most. -/
theorem difficultyUnits_near_hundredths :
    2 * (difficultyUnits units * 100) ≤
        2 * (hundredths units * unitsPerOne) + 100 * spacing (difficultyUnits units) ∧
      2 * (hundredths units * unitsPerOne) ≤
        2 * (difficultyUnits units * 100) + 100 * spacing (difficultyUnits units) :=
  ⟨Binary64.two_mul_roundToGrid_le _ _, Binary64.le_two_mul_roundToGrid _ (by decide)⟩

/-- **How far a difficulty is from its total**: half a hundredth, and what the first and the last
step add. -/
theorem difficultyUnits_near :
    200 * 2 ^ 51 * |(difficultyUnits units - units : Int)| ≤
      2 ^ 51 * unitsPerOne + 200 * max (unitsPerOne : Int) units := by
  obtain ⟨hscaled, hscaled'⟩ := scaledUnits_near units
  obtain ⟨hwhole, hwhole'⟩ := hundredths_near units
  obtain ⟨hresult, hresult'⟩ := difficultyUnits_near_hundredths units
  have hstep := Binary64.spacing_mul_le (scaledUnits units)
  have hstep' := Binary64.spacing_mul_le (difficultyUnits units)
  have hone : 2 ^ 60 ≤ unitsPerOne := Nat.pow_le_pow_right (by decide) (by decide)
  rw [Int.abs_eq_natAbs]
  omega

end Steps

/-- **A hundredth is never halfway between two grid points.** If it were, it would be a whole number
of quarters, and such a number is on the grid itself. -/
theorem eq_roundToGrid_of_tie {k e y : Nat} (hk : k ≤ 2 ^ 53)
    (htie : 2 * (k * (2 ^ e * 4)) = (roundToGrid (k * (2 ^ e * 4)) 100 + y) * 100) :
    y = roundToGrid (k * (2 ^ e * 4)) 100 := by
  have hquarters : 25 ∣ k := by
    have hprime : Nat.Coprime 25 (2 ^ (e + 1)) := Nat.Coprime.pow_right _ (by decide)
    refine hprime.dvd_of_dvd_mul_right ⟨roundToGrid (k * (2 ^ e * 4)) 100 + y, ?_⟩
    rw [← Nat.mul_assoc k] at htie ⊢
    rw [Nat.pow_succ, ← Nat.mul_assoc]
    omega
  obtain ⟨quarters, rfl⟩ := hquarters
  have hunits : 25 * quarters * (2 ^ e * 4) = 2 ^ e * quarters * 100 := by
    rw [Nat.mul_comm (2 ^ e) quarters, Nat.mul_assoc 25, ← Nat.mul_assoc quarters]
    omega
  have hgrid : OnGrid (2 ^ e * quarters) := Binary64.onGrid_two_pow_mul e (by omega)
  rw [hunits, Binary64.roundToGrid_mul_self hgrid (by decide)] at htie ⊢
  omega

/-! ## Up to two to the 44 -/

section Fine

variable {units : Nat} (h : units ≤ 2 ^ 44 * unitsPerOne)
include h

/-- **A difficulty has the hundredths that it was made of.** -/
theorem hundredths_difficultyUnits : hundredths (difficultyUnits units) = hundredths units := by
  have hscale : Representable (2 ^ 44 * 100) := representable_of_le (by decide)
  have hle := difficultyUnits_le hscale h (representable_of_le (by decide))
  -- The steps are less than half a one together: 100 / 256 of one, and half of one.
  have hstep : spacing (difficultyUnits units) * 2 ^ 8 ≤ unitsPerOne := by
    have hmono := Binary64.spacing_mono hle
    have hpow := Binary64.spacing_two_pow 44
    omega
  have hstep' : spacing (scaledUnits (difficultyUnits units)) * 2 ≤ unitsPerOne := by
    have hmono := Binary64.spacing_mono (Nat.le_trans (scaledUnits_le hscale hle)
      (Nat.mul_le_mul_right unitsPerOne (by decide : 2 ^ 44 * 100 ≤ 2 ^ 51)))
    have hpow := Binary64.spacing_two_pow 51
    omega
  obtain ⟨hresult, hresult'⟩ := difficultyUnits_near_hundredths units
  obtain ⟨hscaled, hscaled'⟩ := scaledUnits_near (difficultyUnits units)
  have hpos := unitsPerOne_pos
  exact Binary64.halfEven_eq_of_near (by omega) (by omega)

theorem difficultyUnits_difficultyUnits :
    difficultyUnits (difficultyUnits units) = difficultyUnits units := by
  rw [difficultyUnits, hundredths_difficultyUnits h, ← difficultyUnits]

end Fine

/-! ## Totals and difficulties -/

/-- **What rounding a total to two decimals gives.** -/
structure RoundsTo (total : Binary64) (k : Int) : Prop where
  /-- A hundred times the total is in range. -/
  scaled : (total * ofNat 100).IsFinite
  /-- It is rounded to an integer, a half going to the even one. -/
  integer : IsHalfEven (total * ofNat 100).value k
  /-- The difficulty is the number nearest to that many hundredths. -/
  nearest : IsNearest (k / 100) (roundDifficulty total)
  /-- The sign stays, also that of a zero. -/
  sign : (roundDifficulty total).isNegative = total.isNegative
  /-- How far the difficulty is from the total. -/
  error : |(roundDifficulty total).value - total.value| ≤ 5 / 1000 + max 1 |total.value| / 2 ^ 51
  /-- Rounding again changes nothing. -/
  fixed : roundDifficulty (roundDifficulty total) = roundDifficulty total

/-- The distance of two numbers of one sign, in units. -/
theorem abs_value_sub_value (s : Bool) (d m : Magnitude) :
    |(Binary64.finite s d).value - (Binary64.finite s m).value| * unitsPerOne =
      |(d.units - m.units : ℚ)| := by
  have hone := Binary64.unitsPerOne_pos_rat
  rw [← abs_of_pos hone, ← abs_mul, sub_mul, Binary64.value, Binary64.value,
    div_mul_cancel₀ _ hone.ne', div_mul_cancel₀ _ hone.ne']
  cases s with
  | false => rfl
  | true =>
    rw [abs_sub_comm]
    simp only [Binary64.position_finite, Binary64.signed, if_true, Int.cast_neg, neg_sub_neg]
    rfl

theorem roundsTo_finite (s : Bool) {m : Magnitude} (h : m.units ≤ 2 ^ 44 * unitsPerOne) :
    RoundsTo (.finite s m) (Binary64.signed s (hundredths m.units)) := by
  have hbound : Representable (2 ^ 44) := representable_of_le (by decide)
  have hscale : Representable (2 ^ 44 * 100) := representable_of_le (by decide)
  obtain ⟨r, d, hr, hrunits, hd, hdunits⟩ := roundDifficulty_finite hbound hscale s h
  have hle : d.units ≤ 2 ^ 44 * unitsPerOne := hdunits ▸ difficultyUnits_le hscale h hbound
  have hone := Binary64.unitsPerOne_pos_rat
  refine ⟨⟨s, r, hr⟩, ?_, ?_, by rw [hd]; rfl, ?_, ?_⟩
  · rw [hr, Binary64.value, Binary64.position_finite, hrunits]
    exact Binary64.isHalfEven_signed s (scaledUnits m.units) unitsPerOne_pos
  · rw [hd]
    refine Binary64.isNearest_finite (by decide : 0 < 100) ?_ hdunits ?_
    · rw [← Binary64.signed_mul]
      push_cast
      field_simp
    · intro y hy htie
      rw [hdunits] at htie ⊢
      have hone : unitsPerOne = 2 ^ (leastPlace - 2) * 4 := by
        rw [unitsPerOne, ← Nat.pow_sub_mul_pow 2 (by decide : 2 ≤ leastPlace)]
      rw [difficultyUnits, hone] at htie ⊢
      exact eq_roundToGrid_of_tie (Nat.le_trans (hundredths_le hscale h) (by decide)) htie
  · have hdist := abs_value_sub_value s d m
    have hnear := difficultyUnits_near m.units
    rw [← hdunits, ← Int.cast_le (R := ℚ)] at hnear
    push_cast at hnear
    rw [hd, ← mul_le_mul_iff_of_pos_right hone, hdist, add_mul, div_mul_eq_mul_div (max _ _),
      max_mul_of_nonneg _ _ hone.le, one_mul, Binary64.abs_value_finite,
      div_mul_cancel₀ _ hone.ne']
    linarith
  · obtain ⟨-, d', -, -, hd', hdunits'⟩ := roundDifficulty_finite hbound hscale s hle
    have hsame : d' = d := Magnitude.ext (by
      rw [hdunits', hdunits, difficultyUnits_difficultyUnits h])
    rw [hd, hd', hsame]

/-- **A difficulty is its total, rounded to two decimals.** Up to `2 ^ 44` on either side of zero it
is the number nearest to some hundredths: a hundred times the total, rounded to an integer with ties
to even. It keeps the sign, is about half a hundredth away from the total at most, and is its own
rounding. Totals of any size are kept in order. -/
theorem roundDifficulty_rounds (total : Binary64) :
    (total.IsFinite → |total.value| ≤ 2 ^ 44 → ∃ k, RoundsTo total k) ∧
    ∀ other, total ≤ other → roundDifficulty total ≤ roundDifficulty other := by
  refine ⟨?_, fun other h => roundDifficulty_mono h⟩
  rintro ⟨s, m, rfl⟩ hle
  have hunits : m.units ≤ 2 ^ 44 * unitsPerOne :=
    (Binary64.abs_value_finite_le_iff s m _).mp (by exact_mod_cast hle)
  exact ⟨_, roundsTo_finite s hunits⟩

/-- The number next to 1.005. -/
theorem roundDifficulty_rounds_thousandths :
    (∃ k, RoundsTo (.ofFraction 1005 1000) k) ∧
    roundDifficulty (.ofFraction 1005 1000) ≤ roundDifficulty (ofNat 2) := by
  have htwo : Representable 2 := representable_of_le (by decide)
  have hle : (Binary64.ofFraction 1005 1000).AtMost 2 :=
    Binary64.atMost_ofFraction htwo (by decide) (by decide)
  obtain ⟨hrounds, hmono⟩ := roundDifficulty_rounds (.ofFraction 1005 1000)
  refine ⟨?_, hmono _ ((Binary64.atMost_iff htwo).mp hle).2⟩
  obtain ⟨m, hm, hunits⟩ := hle
  rw [hm] at hrounds ⊢
  have hvalue := (Binary64.abs_value_finite_le_iff false m 2).mpr hunits
  exact hrounds (Binary64.isFinite_finite false m) (le_trans hvalue (by norm_num))

end TrickScore
