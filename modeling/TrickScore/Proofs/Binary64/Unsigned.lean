import TrickScore.Binary64.Bits
import TrickScore.Proofs.Binary64.Order

/-!
# Finite numbers with the sign bit clear

Sums and products of such numbers are such numbers again, as long as they do not overflow. How far
they reach is said by whole numbers: `x.AtMost n` bounds the magnitude of `x` by the whole number
`n`, and an operation whose exact result does not pass a representable bound does not pass it when
it is rounded either.

A sum of many numbers has no bound of that kind. But once a sum is large enough, what is added no
longer moves it: `AtMost.add_absorbed`.

Headlines:
* `isUnsigned_iff_toBits`: these are the numbers whose bit patterns lie below that of infinity.
* `AtMost.add`, `AtMost.mul`, `AtMost.roundToInteger`, `AtMost.div`: bounds of the operations.
* `AtMost.add_absorbed`: a number less than half a step does not lift a sum past a bound.
* `mul_le_mul`, `add_le_add`, `le_add_right`: the operations keep the order.
-/

namespace TrickScore

/-! ## Bit patterns -/

theorem Magnitude.bits_lt (m : Magnitude) : m.bits < 2047 * 2 ^ 52 := by
  have hlog : m.units.log2 ≤ 2097 := by
    rcases Nat.eq_zero_or_pos m.units with hzero | hpos
    · rw [hzero]
      exact Nat.zero_le _
    · have hlt := m.lt_limit
      rw [Binary64.limit, ← Nat.log2_lt (Nat.ne_of_gt hpos), Binary64.leastPlace] at hlt
      omega
  have hlead := Binary64.div_mul_spacing_lt m.units 1
  rw [Nat.div_one, Nat.one_mul] at hlead
  rw [bits]
  omega

namespace Binary64

/-- Finite with the sign bit clear: no negative zero, no infinity and not NaN. -/
def IsUnsigned (x : Binary64) : Prop :=
  ∃ m, x = .finite false m

/-- **The finite numbers with the sign bit clear** are those whose bit pattern lies below that of
infinity. -/
theorem isUnsigned_iff_toBits {x : Binary64} :
    x.IsUnsigned ↔ x.toBits.toNat < 2047 * 2 ^ 52 := by
  cases x with
  | finite negative m =>
    have hbits := m.bits_lt
    cases negative with
    | false =>
      refine iff_of_true ⟨m, rfl⟩ ?_
      rw [toBits, UInt64.toNat_ofNat', Bool.toNat_false]
      omega
    | true =>
      refine iff_of_false (by rintro ⟨_, h⟩; cases h) ?_
      rw [toBits, UInt64.toNat_ofNat', Bool.toNat_true]
      omega
  | infinite negative =>
    refine iff_of_false (by rintro ⟨_, h⟩; cases h) ?_
    rw [toBits, UInt64.toNat_ofNat']
    cases negative
    · rw [Bool.toNat_false]
      omega
    · rw [Bool.toNat_true]
      omega
  | nan =>
    refine iff_of_false (by rintro ⟨_, h⟩; cases h) ?_
    rw [toBits, UInt64.toNat_ofNat']
    omega

/-! ## Bounds -/

/-- Finite with the sign bit clear, and not above the whole number. -/
def AtMost (n : Nat) (x : Binary64) : Prop :=
  ∃ m, x = .finite false m ∧ m.units ≤ n * unitsPerOne

variable {x y : Binary64} {a b n : Nat}

theorem AtMost.isUnsigned (h : x.AtMost n) : x.IsUnsigned :=
  ⟨h.choose, h.choose_spec.1⟩

/-- **A bound by a representable number is a comparison with it.** -/
theorem atMost_iff (hn : Representable n) : x.AtMost n ↔ x.IsUnsigned ∧ x ≤ ofNat n := by
  constructor
  · rintro ⟨m, rfl, hm⟩
    exact ⟨⟨m, rfl⟩, (finite_le_ofNat_iff hn).mpr hm⟩
  · rintro ⟨⟨m, rfl⟩, hm⟩
    exact ⟨m, rfl, (finite_le_ofNat_iff hn).mp hm⟩

theorem AtMost.lt_ofNat (h : x.AtMost n) {k : Nat} (hk : Representable k) (hlt : n < k) :
    x < ofNat k := by
  obtain ⟨m, rfl, hm⟩ := h
  exact (finite_lt_ofNat_iff hk).mpr
    (Nat.lt_of_le_of_lt hm (Nat.mul_lt_mul_of_pos_right hlt unitsPerOne_pos))

/-- Only zero is not above zero. -/
theorem AtMost.eq_zero (h : x.AtMost 0) : x = zero := by
  obtain ⟨m, rfl, hm⟩ := h
  rw [zero]
  congr 1
  exact Magnitude.ext (by rw [Nat.zero_mul] at hm; exact Nat.le_zero.mp hm)

/-- A quotient that does not pass a representable bound is rounded to a number that does not. -/
theorem atMost_ofQuotient (hn : Representable n) {num den : Nat} (hden : 0 < den)
    (h : num ≤ n * unitsPerOne * den) : (ofQuotient false num den).AtMost n := by
  have hle := roundToGrid_le hn.onGrid hden h
  rw [ofQuotient_of_lt (Nat.lt_of_le_of_lt hle hn.lt_limit)]
  exact ⟨_, rfl, hle⟩

theorem atMost_ofFraction (hn : Representable n) {num den : Nat} (hden : 0 < den)
    (h : num ≤ n * den) : (ofFraction num den).AtMost n := by
  unfold ofFraction
  refine atMost_ofQuotient hn hden ?_
  rw [Nat.mul_right_comm]
  exact Nat.mul_le_mul_right _ h

theorem atMost_ofNat (hn : Representable n) {k : Nat} (h : k ≤ n) : (ofNat k).AtMost n :=
  atMost_ofFraction hn Nat.one_pos ((Nat.mul_one n).symm ▸ h)

theorem AtMost.add (hx : x.AtMost a) (hy : y.AtMost b) (hn : Representable n) (h : a + b ≤ n) :
    (x + y).AtMost n := by
  obtain ⟨l, rfl, hl⟩ := hx
  obtain ⟨m, rfl, hm⟩ := hy
  rw [finite_add_finite]
  refine atMost_ofQuotient hn Nat.one_pos ?_
  calc l.units + m.units ≤ a * unitsPerOne + b * unitsPerOne := Nat.add_le_add hl hm
    _ = (a + b) * unitsPerOne := (Nat.add_mul a b _).symm
    _ ≤ n * unitsPerOne * 1 := by rw [Nat.mul_one]; exact Nat.mul_le_mul_right _ h

theorem AtMost.mul (hx : x.AtMost a) (hy : y.AtMost b) (hn : Representable n) (h : a * b ≤ n) :
    (x * y).AtMost n := by
  obtain ⟨l, rfl, hl⟩ := hx
  obtain ⟨m, rfl, hm⟩ := hy
  rw [finite_mul_finite]
  refine atMost_ofQuotient hn unitsPerOne_pos ?_
  calc l.units * m.units ≤ a * unitsPerOne * (b * unitsPerOne) := Nat.mul_le_mul hl hm
    _ = a * b * unitsPerOne * unitsPerOne := by
      rw [← Nat.mul_assoc, Nat.mul_right_comm a]
    _ ≤ n * unitsPerOne * unitsPerOne :=
      Nat.mul_le_mul_right _ (Nat.mul_le_mul_right _ h)

theorem AtMost.roundToInteger (hx : x.AtMost n) (hn : Representable n) :
    x.roundToInteger.AtMost n := by
  obtain ⟨m, rfl, hm⟩ := hx
  rw [roundToInteger_finite]
  refine atMost_ofQuotient hn Nat.one_pos ?_
  have hwhole := halfEven_mono_left unitsPerOne hm
  rw [halfEven_mul_self n unitsPerOne_pos] at hwhole
  rw [Nat.mul_one]
  exact Nat.mul_le_mul_right _ hwhole

theorem AtMost.div (hx : x.AtMost n) (hn : Representable n) {k : Nat} (hk : Representable k)
    (hpos : 0 < k) : (x / ofNat k).AtMost n := by
  obtain ⟨m, rfl, hm⟩ := hx
  rw [hk.finite_div hpos]
  exact atMost_ofQuotient hn hpos (Nat.le_trans hm (Nat.le_mul_of_pos_right _ hpos))

/-- **A number less than half a step does not lift a sum past a bound.** -/
theorem AtMost.add_absorbed (hx : x.AtMost n) (hy : y.AtMost a) (hn : Representable n)
    (h : 2 * (a * unitsPerOne) < spacing (n * unitsPerOne)) : (x + y).AtMost n := by
  obtain ⟨l, rfl, hl⟩ := hx
  obtain ⟨m, rfl, hm⟩ := hy
  have hround : roundToGrid (l.units + m.units) 1 ≤ n * unitsPerOne := by
    calc roundToGrid (l.units + m.units) 1
        ≤ roundToGrid (n * unitsPerOne + m.units) 1 :=
          roundToGrid_mono_left 1 (Nat.add_le_add_right hl _)
      _ = n * unitsPerOne := roundToGrid_add_of_lt hn.onGrid (by omega)
  rw [finite_add_finite, ofQuotient_of_lt (Nat.lt_of_le_of_lt hround hn.lt_limit)]
  exact ⟨_, rfl, hround⟩

/-! ## Order -/

/-- A larger quotient is not rounded to a smaller number. -/
theorem ofQuotient_le_ofQuotient {num num' : Nat} (den : Nat) (h : num ≤ num') :
    ofQuotient false num den ≤ ofQuotient false num' den := by
  refine ⟨ofQuotient_ne_nan _ _ _, ofQuotient_ne_nan _ _ _, ?_⟩
  rw [position, position, isNegative_ofQuotient, isNegative_ofQuotient, extent_ofQuotient,
    extent_ofQuotient]
  have hround := roundToGrid_mono_left den h
  exact Int.ofNat_le.mpr (by omega)

theorem IsUnsigned.le_refl (h : x.IsUnsigned) : x ≤ x := by
  obtain ⟨m, rfl⟩ := h
  exact Binary64.le_refl (by simp)

theorem ofNat_le_ofNat (h : a ≤ b) : ofNat a ≤ ofNat b := by
  rw [ofNat, ofNat, ofFraction, ofFraction]
  exact ofQuotient_le_ofQuotient 1 (Nat.mul_le_mul_right _ h)

variable {x' y' : Binary64}

/-- **Larger factors have no smaller product.** -/
theorem mul_le_mul (hx : x.IsUnsigned) (hx' : x'.IsUnsigned) (hy : y.IsUnsigned)
    (hy' : y'.IsUnsigned) (hxx : x ≤ x') (hyy : y ≤ y') : x * y ≤ x' * y' := by
  obtain ⟨a, rfl⟩ := hx
  obtain ⟨a', rfl⟩ := hx'
  obtain ⟨b, rfl⟩ := hy
  obtain ⟨b', rfl⟩ := hy'
  rw [finite_mul_finite, finite_mul_finite]
  exact ofQuotient_le_ofQuotient _
    (Nat.mul_le_mul (finite_le_finite_iff.mp hxx) (finite_le_finite_iff.mp hyy))

/-- **Larger summands have no smaller sum.** -/
theorem add_le_add (hx : x.IsUnsigned) (hx' : x'.IsUnsigned) (hy : y.IsUnsigned)
    (hy' : y'.IsUnsigned) (hxx : x ≤ x') (hyy : y ≤ y') : x + y ≤ x' + y' := by
  obtain ⟨a, rfl⟩ := hx
  obtain ⟨a', rfl⟩ := hx'
  obtain ⟨b, rfl⟩ := hy
  obtain ⟨b', rfl⟩ := hy'
  rw [finite_add_finite, finite_add_finite]
  exact ofQuotient_le_ofQuotient _
    (Nat.add_le_add (finite_le_finite_iff.mp hxx) (finite_le_finite_iff.mp hyy))

/-- **Adding makes no number smaller**: the number is its own rounding. -/
theorem le_add_right (hx : x.IsUnsigned) (hy : y.IsUnsigned) : x ≤ x + y := by
  obtain ⟨a, rfl⟩ := hx
  obtain ⟨b, rfl⟩ := hy
  rw [finite_add_finite, ← ofQuotient_units]
  exact ofQuotient_le_ofQuotient 1 (Nat.le_add_right _ _)

end Binary64

end TrickScore
