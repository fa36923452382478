import TrickScore.Binary64.Basic

/-!
# Bit patterns of binary64 numbers

The interchange format: a sign bit, eleven exponent bits, fifty-two fraction bits. Below the sign
the patterns count the grid points upwards, so a magnitude and its pattern determine each other by
plain arithmetic: each doubling of the spacing is one step of the exponent field.
-/

namespace TrickScore

namespace Magnitude

/-- The pattern of a magnitude: its leading 53 bits, counted on by `2 ^ 52` for each doubling of the
spacing. -/
def bits (m : Magnitude) : Nat :=
  (m.units.log2 - 52) * 2 ^ 52 + m.units / Binary64.spacing m.units

/-- The magnitude with significand `s` and spacing `2 ^ e`. -/
def ofSignificand (s e : Nat) (hs : s < 2 ^ 53) (he : e ≤ 2045) : Magnitude where
  units := 2 ^ e * s
  onGrid := Binary64.onGrid_two_pow_mul e (Nat.le_of_lt hs)
  lt_limit := by
    have h : 2 ^ e * s < 2 ^ (e + 53) := by
      rw [Nat.pow_add]
      exact Nat.mul_lt_mul_of_pos_left hs (Nat.two_pow_pos e)
    exact Nat.lt_of_lt_of_le h
      (Nat.pow_le_pow_right (by omega) (by unfold Binary64.leastPlace; omega))

end Magnitude

namespace Binary64

/-- The bit pattern; the quiet NaN with a zero payload stands for all NaNs. -/
def toBits : Binary64 → UInt64
  | .finite negative m => UInt64.ofNat (negative.toNat * 2 ^ 63 + m.bits)
  | .infinite negative => UInt64.ofNat (negative.toNat * 2 ^ 63 + 2047 * 2 ^ 52)
  | .nan => UInt64.ofNat (4095 * 2 ^ 51)

/-- The number with a given bit pattern. -/
def ofBits (pattern : UInt64) : Binary64 :=
  let negative : Bool := 2 ^ 63 ≤ pattern.toNat
  let exponent := pattern.toNat / 2 ^ 52 % 2048
  let fraction := pattern.toNat % 2 ^ 52
  have hfraction : pattern.toNat % 2 ^ 52 < 2 ^ 52 := Nat.mod_lt _ (by decide)
  if last : 2047 ≤ exponent then
    if fraction = 0 then .infinite negative else .nan
  else if exponent = 0 then
    .finite negative (.ofSignificand fraction 0 (by omega) (by omega))
  else
    .finite negative (.ofSignificand (2 ^ 52 + fraction) (exponent - 1) (by omega) (by omega))

end Binary64

end TrickScore
