import TrickScore.Decimal.Shortest
import TrickScore.Proofs.Binary64.Rounding

/-!
# The shortest decimal is the shortest

Rounding keeps the order, so whatever lies between two numbers that read back as a magnitude reads
back as well. The magnitude itself does. So if a multiple of a power of ten reads back, one of the
two next to the magnitude does, and looking at those two says all about that power of ten.

Headlines:
* `ReadsBack.of_between`: what reads back has no gaps.
* `onPlace?_eq_none_iff`: nothing is found at a power of ten exactly when no multiple of it reads
  back.
* `searchFrom_spec`: the search stops at the first power of ten at which something is found.
* `shortest_spec`: the shortest decimal reads back, and no multiple of a higher power of ten does.
* `readsBack_iff_places`: reading back in digits behind the point.
-/

namespace TrickScore.Decimal

open Binary64 (OnGrid roundToGrid leastPlace unitsPerOne)

variable {m : Magnitude}

/-! ## Reading back -/

theorem five_pow_pos : 0 < 5 ^ leastPlace :=
  Nat.pow_pos (by decide)

/-- The magnitude itself reads back. -/
theorem readsBack_finestUnits (m : Magnitude) : ReadsBack m (finestUnits m) :=
  Binary64.roundToGrid_mul_self m.onGrid five_pow_pos

/-- **What reads back has no gaps.** -/
theorem ReadsBack.of_between {a b n : Nat} (ha : ReadsBack m a) (hb : ReadsBack m b) (han : a ≤ n)
    (hnb : n ≤ b) : ReadsBack m n := by
  have hlow := Binary64.roundToGrid_mono_left (5 ^ leastPlace) han
  have hhigh := Binary64.roundToGrid_mono_left (5 ^ leastPlace) hnb
  unfold ReadsBack at ha hb ⊢
  omega

/-- A power of ten in the finest count, by the power of two that is in it. -/
theorem ten_pow_leastPlace : 10 ^ leastPlace = unitsPerOne * 5 ^ leastPlace := by
  rw [unitsPerOne, ← Nat.mul_pow]

/-- **Reading back in digits behind the point**: `j` with that many places is `j / 10 ^ places`. -/
theorem readsBack_iff_places {places : Nat} (hplaces : places ≤ leastPlace) (j : Nat) :
    ReadsBack m (j * 10 ^ (leastPlace - places)) ↔
      roundToGrid (j * unitsPerOne) (10 ^ places) = m.units := by
  have hten : 0 < 10 ^ places := Nat.pow_pos (by decide)
  have hsame : j * 10 ^ (leastPlace - places) * 10 ^ places = j * unitsPerOne * 5 ^ leastPlace := by
    rw [Nat.mul_assoc, ← Nat.pow_add, Nat.sub_add_cancel hplaces, ten_pow_leastPlace,
      Nat.mul_assoc]
  unfold ReadsBack
  rw [← Binary64.roundToGrid_mul_right _ (5 ^ leastPlace) hten, hsame,
    Nat.mul_comm (5 ^ leastPlace), Binary64.roundToGrid_mul_right _ _ five_pow_pos]

/-! ## One power of ten -/

/-- What is found at a power of ten reads back. -/
theorem readsBack_of_onPlace? {tie : Tie} {place coefficient : Nat}
    (h : onPlace? tie m place = some coefficient) : ReadsBack m (coefficient * 10 ^ place) := by
  simp only [onPlace?] at h
  split at h
  · rename_i hlow
    split at h
    · rename_i hupper
      obtain rfl := Option.some.inj h
      exact of_decide_eq_true (Bool.and_eq_true_iff.mp hupper).1
    · obtain rfl := Option.some.inj h
      exact hlow
  · split at h
    · rename_i hhigh
      obtain rfl := Option.some.inj h
      exact hhigh
    · cases h

/-- **Nothing is found at a power of ten exactly when no multiple of it reads back**: one that does
is no nearer to the magnitude than the neighbour on its side, so the neighbour reads back. -/
theorem onPlace?_eq_none_iff {tie : Tie} {place : Nat} :
    onPlace? tie m place = none ↔ ∀ j, ¬ ReadsBack m (j * 10 ^ place) := by
  have hself := readsBack_finestUnits m
  have hstep : 0 < 10 ^ place := Nat.pow_pos (by decide)
  constructor
  · intro h j hj
    have hnone : ¬ ReadsBack m (finestUnits m / 10 ^ place * 10 ^ place) ∧
        ¬ ReadsBack m ((finestUnits m / 10 ^ place + 1) * 10 ^ place) := by
      simp only [onPlace?] at h
      split at h
      · split at h <;> cases h
      · rename_i hlow
        split at h
        · cases h
        · rename_i hhigh
          exact ⟨hlow, hhigh⟩
    rcases Nat.lt_or_ge (finestUnits m / 10 ^ place) j with hbelow | habove
    · refine hnone.2 (hself.of_between hj ?_ (Nat.mul_le_mul_right _ hbelow))
      exact Nat.le_of_lt ((Nat.div_lt_iff_lt_mul hstep).mp (Nat.lt_succ_self _))
    · exact hnone.1 (hj.of_between hself (Nat.mul_le_mul_right _ habove) (Nat.div_mul_le_self _ _))
  · intro h
    cases hplace : onPlace? tie m place with
    | none => rfl
    | some coefficient => exact absurd (readsBack_of_onPlace? hplace) (h coefficient)

/-! ## The search -/

/-- **The search ends at the highest power of ten at which something is found**, or else at the
finest count. -/
theorem searchFrom_spec (found? : Nat → Option Nat) (finest start : Nat) :
    ∃ place ≤ start, (searchFrom found? finest start).exponent = (place : Int) - leastPlace ∧
      (found? place = some (searchFrom found? finest start).coefficient ∨
        place = 0 ∧ (searchFrom found? finest start).coefficient = finest) ∧
      ∀ higher ≤ start, place < higher → found? higher = none := by
  induction start with
  | zero =>
    rw [searchFrom]
    exact ⟨0, Nat.le_refl 0, by simp, .inr ⟨rfl, rfl⟩, fun higher hle hlt => by omega⟩
  | succ start ih =>
    rw [searchFrom]
    split
    · rename_i coefficient hfound
      exact ⟨start + 1, Nat.le_refl _, by simp, .inl hfound, fun higher hle hlt => by omega⟩
    · rename_i hnone
      obtain ⟨place, hplace, hexponent, hfound, hhigher⟩ := ih
      refine ⟨place, Nat.le_succ_of_le hplace, hexponent, hfound, fun higher hle hlt => ?_⟩
      rcases Nat.lt_or_eq_of_le hle with hbelow | rfl
      · exact hhigher higher (Nat.le_of_lt_succ hbelow) hlt
      · exact hnone

/-- Above the start of the search nothing reads back: the least multiple is past twice the
magnitude. -/
theorem not_readsBack_of_lt (hm : m.units ≠ 0) {place : Nat}
    (h : leastPlace + (digits (m.units / unitsPerOne)).length < place) (j : Nat) :
    ¬ ReadsBack m (j * 10 ^ place) := by
  intro hj
  rcases Nat.eq_zero_or_pos j with rfl | hpos
  · rw [ReadsBack, Nat.zero_mul, Binary64.roundToGrid_zero] at hj
    exact hm hj.symm
  have hlength : 0 < (digits (m.units / unitsPerOne)).length :=
    List.length_pos_iff.mpr Nat.toDigits_ne_nil
  have hwhole : m.units < 10 ^ (digits (m.units / unitsPerOne)).length * unitsPerOne :=
    (Nat.div_lt_iff_lt_mul Binary64.unitsPerOne_pos).mp
      ((Nat.length_toDigits_le_iff (by decide) hlength).mp (Nat.le_refl _))
  have htwice : 2 * m.units * 5 ^ leastPlace ≤ j * 10 ^ place := by
    calc 2 * m.units * 5 ^ leastPlace
        ≤ 10 * (10 ^ (digits (m.units / unitsPerOne)).length * unitsPerOne) * 5 ^ leastPlace :=
          Nat.mul_le_mul_right _ (Nat.mul_le_mul (by decide) (Nat.le_of_lt hwhole))
      _ = 10 ^ (leastPlace + (digits (m.units / unitsPerOne)).length + 1) := by
          rw [Nat.pow_succ, Nat.pow_add, ten_pow_leastPlace]
          simp only [Nat.mul_comm, Nat.mul_left_comm, Nat.mul_assoc]
      _ ≤ 10 ^ place := Nat.pow_le_pow_right (by decide) h
      _ ≤ j * 10 ^ place := Nat.le_mul_of_pos_left _ hpos
  have hround := Binary64.le_roundToGrid m.onGrid.two_mul five_pow_pos htwice
  rw [hj] at hround
  omega

/-- **The shortest decimal reads back, and no multiple of a higher power of ten does.** -/
theorem shortest_spec (tie : Tie) (hm : m.units ≠ 0) :
    ∃ place : Nat, (shortest tie m).exponent = (place : Int) - leastPlace ∧
      ReadsBack m ((shortest tie m).coefficient * 10 ^ place) ∧
      ∀ higher, place < higher → ∀ j, ¬ ReadsBack m (j * 10 ^ higher) := by
  obtain ⟨place, -, hexponent, hfound, hhigher⟩ := searchFrom_spec (onPlace? tie m)
    (finestUnits m) (leastPlace + (digits (m.units / unitsPerOne)).length)
  rw [shortest, if_neg hm]
  refine ⟨place, hexponent, ?_, fun higher hlt => ?_⟩
  · rcases hfound with hfound | ⟨rfl, hfinest⟩
    · exact readsBack_of_onPlace? hfound
    · rw [hfinest, Nat.pow_zero, Nat.mul_one]
      exact readsBack_finestUnits m
  · by_cases hstart : higher ≤ leastPlace + (digits (m.units / unitsPerOne)).length
    · exact onPlace?_eq_none_iff.mp (hhigher higher hstart hlt)
    · exact not_readsBack_of_lt hm (Nat.lt_of_not_le hstart)

end TrickScore.Decimal
