import TrickScore.Proofs.Binary64.Order
import TrickScore.Proofs.Decimal.Shortest
import TrickScore.Proofs.Decimal.Value
import TrickScore.Text.Json

/-!
# Hundredths

A number of hundredths is hardly ever a binary64 number, but the nearest binary64 number tells it,
as long as the steps there are smaller than a hundredth by far: no two numbers of hundredths share
their nearest number. So the expansion to two decimals and the shortest digits are the same number,
although the one is made from the exact value and the other from what reads back. Up to `10 ^ 13`
the steps are at most `2 ^ (-8)`.

Headlines:
* `Hundredths.halfEven_eq`, `Hundredths.eq_of_readsBack`: the nearest number tells the hundredths.
* `Hundredths.shortest_eq`: the shortest digits are those of the hundredths without the zeros at
  their end.
* `Hundredths.value?_fixed`, `Hundredths.number_eq`: both texts denote the hundredths.
-/

namespace TrickScore.Decimal

open Binary64 (halfEven roundToGrid spacing leastPlace unitsPerOne)

/-- The magnitude nearest to `k` hundredths, where it tells them. -/
structure Hundredths (k : Nat) (m : Magnitude) : Prop where
  nearest : roundToGrid (k * unitsPerOne) 100 = m.units
  le : m.units ≤ 10 ^ 13 * unitsPerOne

/-- Hundredths read back where the nearest magnitude to them is the given one. -/
theorem readsBack_hundredths_iff {m : Magnitude} (j : Nat) :
    ReadsBack m (j * 10 ^ (leastPlace - 2)) ↔ roundToGrid (j * unitsPerOne) 100 = m.units := by
  rw [readsBack_iff_places (by decide), show 10 ^ 2 = 100 from rfl]

namespace Hundredths

variable {k : Nat} {m : Magnitude} (h : Hundredths k m)
include h

/-! ## The nearest number tells the hundredths -/

theorem hundred_mul_spacing_lt : 100 * spacing m.units < unitsPerOne := by
  have hbound : spacing m.units ≤ spacing (2 ^ 44 * unitsPerOne) :=
    Binary64.spacing_mono (Nat.le_trans h.le (Nat.mul_le_mul_right _ (by decide)))
  have hstep := Binary64.spacing_two_pow 44
  have hpos := Binary64.unitsPerOne_pos
  omega

/-- **The hundredths are the exact value rounded to two places.** -/
theorem halfEven_eq : halfEven (m.units * 100) unitsPerOne = k := by
  have hup := Binary64.two_mul_roundToGrid_le (k * unitsPerOne) 100
  have hdown := Binary64.le_two_mul_roundToGrid (k * unitsPerOne) (by decide : 0 < 100)
  have hstep := h.hundred_mul_spacing_lt
  rw [h.nearest] at hup hdown
  exact Binary64.halfEven_eq_of_near (by omega) (by omega)

/-- **No other hundredths read back.** -/
theorem eq_of_readsBack {j : Nat} (hj : ReadsBack m (j * 10 ^ (leastPlace - 2))) : j = k := by
  have hother : Hundredths j m := ⟨(readsBack_hundredths_iff j).mp hj, h.le⟩
  exact hother.halfEven_eq.symm.trans h.halfEven_eq

theorem readsBack : ReadsBack m (k * 10 ^ (leastPlace - 2)) :=
  (readsBack_hundredths_iff k).mpr h.nearest

/-- What reads back with fewer places shows that the hundredths end with zeros. -/
theorem ten_pow_dvd {j places : Nat} (hplaces : places ≤ 2)
    (hj : roundToGrid (j * unitsPerOne) (10 ^ places) = m.units) : 10 ^ (2 - places) ∣ k := by
  have htwo : 2 ≤ leastPlace := by decide
  have hfine : leastPlace - places = 2 - places + (leastPlace - 2) := by omega
  have hreads := (readsBack_iff_places (by omega) j).mpr hj
  rw [hfine, Nat.pow_add, ← Nat.mul_assoc] at hreads
  exact ⟨j, by rw [Nat.mul_comm, h.eq_of_readsBack hreads]⟩

theorem eq_zero_of_units (hm : m.units = 0) : k = 0 := by
  have hvalue := h.halfEven_eq
  rw [hm, Nat.zero_mul, Binary64.halfEven_zero] at hvalue
  exact hvalue.symm

theorem le_ten_pow : k ≤ 10 ^ 15 := by
  have hscaled : m.units * 100 ≤ 10 ^ 15 * unitsPerOne := by
    have hle := h.le
    omega
  rw [← h.halfEven_eq, ← Binary64.halfEven_mul_self (10 ^ 15) Binary64.unitsPerOne_pos]
  exact Binary64.halfEven_mono_left _ hscaled

/-! ## Shortest digits -/

/-- **The shortest digits are those of the hundredths without the zeros at their end**, counted in
tens of a hundredth, as far as the zeros stand behind the point. -/
theorem shortest_eq (tie : Tie) :
    ∃ coefficient zeros : Nat, shortest tie m = ⟨coefficient, (zeros : Int) - 2⟩ ∧ zeros ≤ 15 ∧
      coefficient * 10 ^ zeros = k ∧ ∀ more ≤ 2, zeros < more → ¬ 10 ^ more ∣ k := by
  by_cases hm : m.units = 0
  · refine ⟨0, 2, by rw [shortest, if_pos hm]; rfl, by decide, ?_, fun more hle hlt => by omega⟩
    rw [h.eq_zero_of_units hm, Nat.zero_mul]
  obtain ⟨place, hexponent, hreads, hhigher⟩ := shortest_spec tie hm
  have hplace : leastPlace - 2 ≤ place := Nat.le_of_not_lt fun hlt => hhigher _ hlt k h.readsBack
  obtain ⟨zeros, rfl⟩ := Nat.exists_eq_add_of_le hplace
  have hk : (shortest tie m).coefficient * 10 ^ zeros = k := by
    refine h.eq_of_readsBack ?_
    rwa [Nat.mul_assoc, ← Nat.pow_add, Nat.add_comm zeros]
  refine ⟨(shortest tie m).coefficient, zeros, ?_, ?_, hk, fun more hle hlt hdvd => ?_⟩
  · have htwo : 2 ≤ leastPlace := by decide
    have hscale : (shortest tie m).exponent = (zeros : Int) - 2 := by omega
    rw [← hscale]
  · have hcoefficient : 0 < (shortest tie m).coefficient := by
      refine Nat.pos_of_ne_zero fun hzero => hm ?_
      rw [hzero, Nat.zero_mul] at hk
      rw [← h.nearest, ← hk, Nat.zero_mul, Binary64.roundToGrid_zero]
    have hpow : 10 ^ zeros ≤ 10 ^ 15 := by
      calc 10 ^ zeros ≤ (shortest tie m).coefficient * 10 ^ zeros :=
            Nat.le_mul_of_pos_left _ hcoefficient
        _ = k := hk
        _ ≤ 10 ^ 15 := h.le_ten_pow
    exact (Nat.pow_le_pow_iff_right (by decide)).mp hpow
  · -- One zero more, and the hundredths would read back at a higher power of ten.
    obtain ⟨j, hj⟩ := hdvd
    refine hhigher (leastPlace - 2 + more) (Nat.add_lt_add_left hlt _) j ?_
    have hreads := h.readsBack
    rwa [hj, Nat.mul_comm (10 ^ more), Nat.mul_assoc, ← Nat.pow_add, Nat.add_comm more] at hreads

/-! ## The two texts -/

/-- **The expansion to two decimals denotes the hundredths.** -/
theorem value?_fixed : value? (fixed 2 (.finite false m)).toList = some (mkRat k 100) := by
  have hplaces := value?_withPlaces k (by decide : 0 < 2)
  rw [show 10 ^ 2 = 100 from rfl] at hplaces
  rw [fixed, String.toList_ofList, show 10 ^ 2 = 100 from rfl, h.halfEven_eq]
  exact hplaces

end Hundredths

/-- Up to `10 ^ 15` hundredths stand without an exponent. -/
theorem isPositional_of_le {coefficient zeros : Nat} (hzeros : zeros ≤ 15)
    (h : coefficient * 10 ^ zeros ≤ 10 ^ 15) :
    Json.numberStyle.isPositional (Scaled.leading ⟨coefficient, (zeros : Int) - 2⟩) = true := by
  have hpos : 0 < (digits coefficient).length := List.length_pos_iff.mpr Nat.toDigits_ne_nil
  have hlength : (digits coefficient).length ≤ 16 - zeros := by
    refine (Nat.length_toDigits_le_iff (by decide) (by omega)).mpr ?_
    refine Nat.lt_of_mul_lt_mul_right (a := 10 ^ zeros) (Nat.lt_of_le_of_lt h ?_)
    rw [← Nat.pow_add, Nat.sub_add_cancel (by omega)]
    decide
  simp only [Json.numberStyle, Scaled.leading, Bool.and_eq_true, decide_eq_true_eq]
  omega

/-- Such hundredths are written with their digits and a point, and `.0` where they are whole. -/
theorem toList_number {m : Magnitude} {coefficient zeros : Nat}
    (hshortest : shortest Json.numberStyle.tie m = ⟨coefficient, (zeros : Int) - 2⟩)
    (hzeros : zeros ≤ 15) (hle : coefficient * 10 ^ zeros ≤ 10 ^ 15) :
    (Json.number (.finite false m)).toList =
      Scaled.positional ⟨coefficient, (zeros : Int) - 2⟩ ++
        if 0 ≤ (zeros : Int) - 2 then ['.', '0'] else [] := by
  rw [Json.number, NumberStyle.write, String.toList_ofList]
  simp only [NumberStyle.magnitude, hshortest]
  rw [if_pos (isPositional_of_le hzeros hle)]
  rfl

/-- With fewer than two zeros the point stands among the digits. -/
theorem positional_of_lt {coefficient zeros : Nat} (h : zeros < 2) :
    (Scaled.positional ⟨coefficient, (zeros : Int) - 2⟩ ++
        if 0 ≤ (zeros : Int) - 2 then ['.', '0'] else []) =
      withPlaces coefficient (2 - zeros) := by
  have hexponent : ¬ 0 ≤ (zeros : Int) - 2 := by omega
  have hplaces : ((zeros : Int) - 2).natAbs = 2 - zeros := by omega
  rw [Scaled.positional, if_neg hexponent, if_neg hexponent, List.append_nil, hplaces]

/-- With two zeros or more the number is whole. -/
theorem positional_of_le {coefficient zeros : Nat} (h : 2 ≤ zeros) :
    (Scaled.positional ⟨coefficient, (zeros : Int) - 2⟩ ++
        if 0 ≤ (zeros : Int) - 2 then ['.', '0'] else []) =
      digits (coefficient * 10 ^ (zeros - 2)) ++ ['.', '0'] := by
  have hexponent : 0 ≤ (zeros : Int) - 2 := by omega
  have hplaces : ((zeros : Int) - 2).toNat = zeros - 2 := by omega
  rw [Scaled.positional, if_pos hexponent, if_pos hexponent, hplaces]

/-- **The shortest digits denote the hundredths**, with one place or two behind the point: `.0`
where the hundredths are whole, and else no more places than reading back takes. -/
theorem Hundredths.number_eq {k : Nat} {m : Magnitude} (h : Hundredths k m) :
    value? (Json.number (.finite false m)).toList = some (mkRat k 100) ∧
      ∃ whole places, (Json.number (.finite false m)).toList = whole ++ '.' :: places ∧
        (places.length = 1 ∨ places.length = 2) ∧ (100 ∣ k → places = ['0']) ∧
        ∀ fewer < places.length, ∀ j, roundToGrid (j * unitsPerOne) (10 ^ fewer) = m.units →
          places = ['0'] := by
  obtain ⟨coefficient, zeros, hshortest, hzeros, hk, hdvd⟩ :=
    h.shortest_eq Json.numberStyle.tie
  have hvalue : ∀ {n den : Nat}, 0 < den → n * 100 = k * den → mkRat n den = mkRat k 100 :=
    fun hden heq => (mkRat_eq_mkRat_iff hden (by decide)).mpr heq
  rw [toList_number hshortest hzeros (hk ▸ h.le_ten_pow)]
  by_cases hpoint : zeros < 2
  · have hplaces : 0 < 2 - zeros := by omega
    have hten : 0 < 10 ^ (2 - zeros) := Nat.pow_pos (by decide)
    have hhundred : 10 ^ zeros * 10 ^ (2 - zeros) = 100 := by
      rw [← Nat.pow_add, Nat.add_sub_cancel' (Nat.le_of_lt hpoint)]
    have hlength := length_padded hplaces (Nat.mod_lt coefficient hten)
    rw [positional_of_lt hpoint]
    refine ⟨?_, digits (coefficient / 10 ^ (2 - zeros)),
      padded (2 - zeros) (coefficient % 10 ^ (2 - zeros)), ?_, ?_, fun hwhole => ?_,
      fun fewer hfewer j hj => ?_⟩
    · rw [value?_withPlaces coefficient hplaces, hvalue hten]
      rw [← hk, Nat.mul_assoc, hhundred]
    · rw [withPlaces, if_neg (Nat.ne_of_gt hplaces)]
    · omega
    · exact absurd hwhole (hdvd 2 (Nat.le_refl 2) hpoint)
    · rw [hlength] at hfewer
      exact absurd (h.ten_pow_dvd (by omega) hj) (hdvd _ (Nat.sub_le _ _) (by omega))
  · have hwhole : 2 ≤ zeros := Nat.le_of_not_lt hpoint
    rw [positional_of_le hwhole]
    refine ⟨?_, digits (coefficient * 10 ^ (zeros - 2)), ['0'], rfl, .inl rfl, fun _ => rfl,
      fun _ _ _ _ => rfl⟩
    rw [value?_append_pointZero, hvalue (by decide)]
    rw [Nat.mul_one, ← hk, Nat.mul_assoc, show 100 = 10 ^ 2 from rfl, ← Nat.pow_add,
      Nat.sub_add_cancel hwhole]

end TrickScore.Decimal
