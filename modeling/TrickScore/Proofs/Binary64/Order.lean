import TrickScore.Proofs.Binary64.Rounding

/-!
# The order of binary64 numbers

Numbers are compared as they are on the machine: by their values, the two zeros alike, and NaN with
nothing. An infinite number is put where the first magnitude past the finite ones would stand, so
that one integer, the `position`, says all of the order.

The operations by which a total becomes a difficulty keep the sign and act on magnitudes alone. For
those one lemma, `map_le_map`, says that they keep the order.

Headlines:
* `representable_two_pow_mul`, `ofNat_eq`: a whole number of 53 bits and more zeros is exact.
* `Representable.ofNat_mul_ofNat`, `Representable.ofNat_add_ofNat`: so are whole products and sums.
* `mul_ofNat_one`: one leaves every factor as it is.
* `finite_le_ofNat_iff`, `finite_lt_ofNat_iff`: comparing with a whole number is counting units.
* `map_le_map`: an operation on magnitudes that keeps their order keeps the order of all numbers.
* `mul_le_mul_right`, `div_le_div_right`, `roundToInteger_le_roundToInteger`: three such operations.
-/

namespace TrickScore.Binary64

/-! ## Whole numbers -/

/-- The natural number is a binary64 number. -/
structure Representable (n : Nat) : Prop where
  onGrid : OnGrid (n * unitsPerOne)
  lt_limit : n * unitsPerOne < limit

/-- **A number of at most 53 bits and any zeros behind them is a binary64 number**, as long as it is
in range. -/
theorem representable_two_pow_mul {s e : Nat} (hs : s ≤ 2 ^ 53) (he : e ≤ 970) :
    Representable (2 ^ e * s) := by
  have hunits : 2 ^ e * s * unitsPerOne = 2 ^ (leastPlace + e) * s := by
    rw [Nat.mul_comm, unitsPerOne, Nat.pow_add, Nat.mul_assoc]
  refine ⟨?_, ?_⟩
  · rw [hunits]
    exact onGrid_two_pow_mul _ hs
  · rw [hunits]
    calc 2 ^ (leastPlace + e) * s ≤ 2 ^ (leastPlace + e) * 2 ^ 53 := Nat.mul_le_mul_left _ hs
      _ = 2 ^ (leastPlace + e + 53) := (Nat.pow_add 2 _ 53).symm
      _ < limit := Nat.pow_lt_pow_right (by decide) (by omega)

/-- Integers up to `2 ^ 53` are binary64 numbers. -/
theorem representable_of_le {n : Nat} (h : n ≤ 2 ^ 53) : Representable n := by
  have hzero := representable_two_pow_mul (e := 0) h (by decide)
  rwa [Nat.pow_zero, Nat.one_mul] at hzero

theorem representable_two_pow {e : Nat} (he : e ≤ 970) : Representable (2 ^ e) := by
  have hone := representable_two_pow_mul (s := 1) (by decide) he
  rwa [Nat.mul_one] at hone

/-- The step at a power of two: 53 bits make up the whole. -/
theorem spacing_two_pow (e : Nat) :
    spacing (2 ^ e * unitsPerOne) * 2 ^ 52 = 2 ^ e * unitsPerOne := by
  have hbits : e + leastPlace - 52 + 52 = e + leastPlace := by
    unfold leastPlace
    omega
  rw [unitsPerOne, ← Nat.pow_add, spacing, Nat.log2_two_pow, ← Nat.pow_add, hbits]

namespace Representable

/-- The magnitude of a whole number. -/
def magnitude {n : Nat} (h : Representable n) : Magnitude :=
  ⟨n * unitsPerOne, h.onGrid, h.lt_limit⟩

theorem units_magnitude {n : Nat} (h : Representable n) : h.magnitude.units = n * unitsPerOne := by
  rw [magnitude]

theorem ofNat_eq {n : Nat} (h : Representable n) : ofNat n = .finite false h.magnitude := by
  rw [ofNat, ofFraction, ← h.units_magnitude, ofQuotient_units]

end Representable

/-! ## Operations case by case -/

theorem finite_add_finite (a b : Magnitude) :
    Binary64.finite false a + .finite false b = ofQuotient false (a.units + b.units) 1 := by
  simp only [HAdd.hAdd, Add.add, add, addFinite, if_true]

theorem finite_mul_finite (s t : Bool) (a b : Magnitude) :
    Binary64.finite s a * .finite t b = ofQuotient (s != t) (a.units * b.units) unitsPerOne := by
  simp only [HMul.hMul, Mul.mul, mul]

theorem infinite_mul_finite (s t : Bool) (b : Magnitude) :
    Binary64.infinite s * .finite t b = if b.units = 0 then .nan else .infinite (s != t) := by
  simp only [HMul.hMul, Mul.mul, mul]

theorem finite_div_finite (s t : Bool) (a b : Magnitude) :
    Binary64.finite s a / .finite t b =
      if b.units = 0 then
        if a.units = 0 then .nan else .infinite (s != t)
      else
        ofQuotient (s != t) (a.units * unitsPerOne) b.units := by
  simp only [HDiv.hDiv, Div.div, div]

theorem infinite_div_finite (s t : Bool) (b : Magnitude) :
    Binary64.infinite s / .finite t b = .infinite (s != t) := by
  simp only [HDiv.hDiv, Div.div, div]

theorem roundToInteger_finite (s : Bool) (a : Magnitude) :
    (Binary64.finite s a).roundToInteger =
      ofQuotient s (halfEven a.units unitsPerOne * unitsPerOne) 1 := by
  rw [roundToInteger]

/-- A quotient is given by its rounding. -/
theorem ofQuotient_congr {negative : Bool} {num den num' den' : Nat}
    (h : roundToGrid num den = roundToGrid num' den') :
    ofQuotient negative num den = ofQuotient negative num' den' := by
  simp only [ofQuotient, h]

namespace Representable

variable {n : Nat} (h : Representable n)
include h

/-- A whole factor multiplies the units. -/
theorem finite_mul (s : Bool) (a : Magnitude) :
    .finite s a * ofNat n = ofQuotient s (a.units * n) 1 := by
  rw [h.ofNat_eq, finite_mul_finite, Bool.bne_false, magnitude, ← Nat.mul_assoc]
  refine ofQuotient_congr ?_
  have hscaled := roundToGrid_mul_right (a.units * n) 1 unitsPerOne_pos
  rwa [Nat.one_mul] at hscaled

/-- An infinite number stays infinite under a whole factor. -/
theorem infinite_mul (hpos : 0 < n) (s : Bool) : .infinite s * ofNat n = .infinite s := by
  have hunits : h.magnitude.units ≠ 0 := Nat.ne_of_gt (Nat.mul_pos hpos unitsPerOne_pos)
  rw [h.ofNat_eq, infinite_mul_finite, if_neg hunits, Bool.bne_false]

/-- A whole divisor divides the units. -/
theorem finite_div (hpos : 0 < n) (s : Bool) (a : Magnitude) :
    .finite s a / ofNat n = ofQuotient s a.units n := by
  have hunits : h.magnitude.units ≠ 0 := Nat.ne_of_gt (Nat.mul_pos hpos unitsPerOne_pos)
  rw [h.ofNat_eq, finite_div_finite, if_neg hunits, Bool.bne_false]
  exact ofQuotient_congr (roundToGrid_mul_right a.units n unitsPerOne_pos)

/-- An infinite number stays infinite under a whole divisor. -/
theorem infinite_div (s : Bool) : .infinite s / ofNat n = .infinite s := by
  rw [h.ofNat_eq, infinite_div_finite, Bool.bne_false]

end Representable

/-- A product of whole numbers that is a binary64 number is exact. -/
theorem Representable.ofNat_mul_ofNat {a b : Nat} (ha : Representable a) (hb : Representable b)
    (hab : Representable (a * b)) : ofNat a * ofNat b = ofNat (a * b) := by
  rw [ha.ofNat_eq, hb.finite_mul, hab.ofNat_eq, ha.units_magnitude, Nat.mul_right_comm]
  exact ofQuotient_units false hab.magnitude

/-- So is a sum. -/
theorem Representable.ofNat_add_ofNat {a b : Nat} (ha : Representable a) (hb : Representable b)
    (hab : Representable (a + b)) : ofNat a + ofNat b = ofNat (a + b) := by
  rw [ha.ofNat_eq, hb.ofNat_eq, finite_add_finite, hab.ofNat_eq, ha.units_magnitude,
    hb.units_magnitude, ← Nat.add_mul]
  exact ofQuotient_units false hab.magnitude

/-- **One leaves every factor as it is.** -/
theorem mul_ofNat_one (x : Binary64) : x * ofNat 1 = x := by
  have hone : Representable 1 := representable_of_le (by decide)
  cases x with
  | nan => rfl
  | infinite s => exact hone.infinite_mul Nat.one_pos s
  | finite s a =>
    rw [hone.finite_mul, Nat.mul_one]
    exact ofQuotient_units s a

/-! ## Positions -/

/-- A number of units with its sign. -/
def signed (negative : Bool) (n : Nat) : Int :=
  if negative then -(n : Int) else n

/-- The sign of a number is minus. -/
def isNegative : Binary64 → Bool
  | .finite negative _ => negative
  | .infinite negative => negative
  | .nan => false

/-- How far a number is from zero, in units. An infinite one stands just past the finite ones. -/
def extent : Binary64 → Nat
  | .finite _ m => m.units
  | .infinite _ => limit
  | .nan => 0

/-- Where a number stands among all. Both zeros stand at the same place. -/
def position (x : Binary64) : Int :=
  signed x.isNegative x.extent

instance : LE Binary64 where
  le x y := x ≠ .nan ∧ y ≠ .nan ∧ x.position ≤ y.position

instance : LT Binary64 where
  lt x y := x ≠ .nan ∧ y ≠ .nan ∧ x.position < y.position

instance (x y : Binary64) : Decidable (x ≤ y) :=
  inferInstanceAs (Decidable (x ≠ .nan ∧ y ≠ .nan ∧ x.position ≤ y.position))

instance (x y : Binary64) : Decidable (x < y) :=
  inferInstanceAs (Decidable (x ≠ .nan ∧ y ≠ .nan ∧ x.position < y.position))

theorem le_refl {x : Binary64} (h : x ≠ .nan) : x ≤ x :=
  ⟨h, h, Int.le_refl _⟩

theorem le_trans {x y z : Binary64} (hxy : x ≤ y) (hyz : y ≤ z) : x ≤ z :=
  ⟨hxy.1, hyz.2.1, Int.le_trans hxy.2.2 hyz.2.2⟩

theorem ofQuotient_ne_nan (negative : Bool) (num den : Nat) :
    ofQuotient negative num den ≠ .nan := by
  unfold ofQuotient
  split <;> simp

/-- A quotient is the magnitude that it is rounded to. -/
theorem ofQuotient_eq_finite_iff {negative : Bool} {num den : Nat} {m : Magnitude} :
    ofQuotient negative num den = .finite negative m ↔ roundToGrid num den = m.units := by
  constructor
  · intro h
    unfold ofQuotient at h
    split at h
    · cases h
      rfl
    · cases h
  · intro h
    rw [ofQuotient_of_lt (h ▸ m.lt_limit)]
    congr 1
    exact Magnitude.ext h

/-- A quotient is put where it is rounded to, or at the limit. -/
theorem extent_ofQuotient (negative : Bool) (num den : Nat) :
    (ofQuotient negative num den).extent = min (roundToGrid num den) limit := by
  unfold ofQuotient
  split
  · rename_i h
    exact (Nat.min_eq_left (Nat.le_of_lt h)).symm
  · rename_i h
    exact (Nat.min_eq_right (Nat.le_of_not_lt h)).symm

theorem isNegative_ofQuotient (negative : Bool) (num den : Nat) :
    (ofQuotient negative num den).isNegative = negative := by
  unfold ofQuotient
  split <;> rfl

/-- Positive numbers are compared by their units. -/
theorem finite_le_finite_iff {a b : Magnitude} :
    Binary64.finite false a ≤ .finite false b ↔ a.units ≤ b.units := by
  constructor
  · intro h
    exact Int.ofNat_le.mp h.2.2
  · intro h
    exact ⟨by simp, by simp, Int.ofNat_le.mpr h⟩

/-- **Comparing with a whole number is counting units.** -/
theorem finite_le_ofNat_iff {a : Magnitude} {n : Nat} (h : Representable n) :
    Binary64.finite false a ≤ ofNat n ↔ a.units ≤ n * unitsPerOne := by
  rw [h.ofNat_eq]
  exact finite_le_finite_iff

theorem finite_lt_ofNat_iff {a : Magnitude} {n : Nat} (h : Representable n) :
    Binary64.finite false a < ofNat n ↔ a.units < n * unitsPerOne := by
  rw [h.ofNat_eq]
  constructor
  · intro hlt
    exact Int.ofNat_lt.mp hlt.2.2
  · intro hlt
    exact ⟨by simp, by simp, Int.ofNat_lt.mpr hlt⟩

/-! ## Operations that keep the order -/

/-- A function that keeps the order of magnitudes, and zero, keeps the order of all numbers. -/
theorem signed_le_signed {g : Nat → Nat} (hmono : ∀ a b, a ≤ b → g a ≤ g b) (hzero : g 0 = 0)
    {s t : Bool} {a b : Nat} (h : signed s a ≤ signed t b) : signed s (g a) ≤ signed t (g b) := by
  cases s <;> cases t <;> simp only [signed, Bool.false_eq_true, if_false, if_true] at h ⊢
  · exact Int.ofNat_le.mpr (hmono a b (Int.ofNat_le.mp h))
  · -- What is not negative does not stand below what is not positive, unless both are zero.
    obtain ⟨rfl, rfl⟩ : a = 0 ∧ b = 0 := by omega
    simp [hzero]
  · omega
  · exact Int.neg_le_neg (Int.ofNat_le.mpr (hmono b a (Int.ofNat_le.mp (Int.le_of_neg_le_neg h))))

/-- **An operation on magnitudes that keeps their order keeps the order of all numbers.** -/
theorem map_le_map (f : Binary64 → Binary64) (num : Nat → Nat) (den : Nat)
    (hfinite : ∀ s a, f (.finite s a) = ofQuotient s (num a.units) den)
    (hinfinite : ∀ s, f (.infinite s) = .infinite s)
    (hmono : ∀ a b, a ≤ b → num a ≤ num b) (hzero : num 0 = 0)
    {x y : Binary64} (h : x ≤ y) : f x ≤ f y := by
  let g : Nat → Nat := fun n => if n < limit then min (roundToGrid (num n) den) limit else limit
  have hg : ∀ x : Binary64, x ≠ .nan →
      f x ≠ .nan ∧ (f x).position = signed x.isNegative (g x.extent) := by
    intro x hx
    cases x with
    | nan => exact absurd rfl hx
    | infinite s =>
      rw [hinfinite]
      exact ⟨hx, congrArg (signed s) (if_neg (Nat.lt_irrefl limit)).symm⟩
    | finite s a =>
      rw [hfinite, position, isNegative_ofQuotient, extent_ofQuotient]
      exact ⟨ofQuotient_ne_nan _ _ _, congrArg (signed s) (if_pos a.lt_limit).symm⟩
  have hgmono : ∀ a b, a ≤ b → g a ≤ g b := by
    intro a b hab
    have hround := roundToGrid_mono_left den (hmono a b hab)
    simp only [g]
    split <;> split <;> omega
  have hgzero : g 0 = 0 := by
    simp only [g, hzero, roundToGrid_zero, if_pos limit_pos, Nat.zero_min]
  obtain ⟨hx, hy, hle⟩ := h
  obtain ⟨hfx, hpx⟩ := hg x hx
  obtain ⟨hfy, hpy⟩ := hg y hy
  refine ⟨hfx, hfy, ?_⟩
  rw [hpx, hpy]
  exact signed_le_signed hgmono hgzero hle

/-- A whole factor keeps the order. -/
theorem mul_le_mul_right {n : Nat} (h : Representable n) (hpos : 0 < n) {x y : Binary64}
    (hxy : x ≤ y) : x * ofNat n ≤ y * ofNat n :=
  map_le_map (fun x => x * ofNat n) (fun units => units * n) 1 h.finite_mul (h.infinite_mul hpos)
    (fun _ _ hab => Nat.mul_le_mul_right n hab) (Nat.zero_mul n) hxy

/-- A whole divisor keeps the order. -/
theorem div_le_div_right {n : Nat} (h : Representable n) (hpos : 0 < n) {x y : Binary64}
    (hxy : x ≤ y) : x / ofNat n ≤ y / ofNat n :=
  map_le_map (fun x => x / ofNat n) (fun units => units) n (h.finite_div hpos) h.infinite_div
    (fun _ _ hab => hab) rfl hxy

/-- Rounding to an integer keeps the order. -/
theorem roundToInteger_le_roundToInteger {x y : Binary64} (h : x ≤ y) :
    x.roundToInteger ≤ y.roundToInteger :=
  map_le_map roundToInteger (fun units => halfEven units unitsPerOne * unitsPerOne) 1
    roundToInteger_finite (fun _ => rfl)
    (fun _ _ hab => Nat.mul_le_mul_right _ (halfEven_mono_left _ hab))
    (by rw [halfEven_zero, Nat.zero_mul]) h

end TrickScore.Binary64
