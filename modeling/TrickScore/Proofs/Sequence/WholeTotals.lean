import TrickScore.Proofs.Sequence.TwoDecimals

/-!
# Whole totals

Where every modifier is A, scores and totals are whole numbers, and below `2 ^ 53` they are exact.
Rounding such a total to two decimals ought to leave it alone, but the hundredfold of a total may
need up to 60 bits and is rounded itself. Whether the total comes back depends on how far.

Both the total and its hundredfold are whole, so that all is said in ones: the hundredfold is
rounded to 53 bits, and the total comes back exactly when this moves it by half a step of the total
at most, taken a hundred times (`KeepsWhole`). A step of the hundredfold is 64 or 128 steps of the
total; where it is 64, its half is never too much.

Headlines:
* `exists_ofTokens_whole`: whole scores and their sum are exact.
* `difficultyUnits_whole_iff`: which whole totals come back, by their units.
* `roundDifficulty_ofNat_iff`: which whole totals come back.
* **`Sequence.ofTokens_wholeTotal`**: what becomes of whole totals.
-/

namespace TrickScore

open Binary64 (ofNat halfEven roundToGrid spacing OnGrid Representable representable_of_le
  leastPlace unitsPerOne unitsPerOne_pos)

/-! ## Whole scores -/

/-- What the tricks of tokens with modifier A are worth, after a given letter: each its count, as
often as it counts behind the letter right before it. -/
def wholeScores (before : Option Char) : List Token → List Nat
  | [] => []
  | token :: tokens =>
    token.count.toNat * timesCounted (letterBonus before token.action) ::
      wholeScores (some token.action) tokens

theorem timesCounted_pos (bonus : Option Bonus) : 0 < timesCounted bonus := by
  rcases bonus with _ | _ | _ <;> decide

theorem timesCounted_le (bonus : Option Bonus) : timesCounted bonus ≤ 3 := by
  rcases bonus with _ | _ | _ <;> decide

/-- A trick with modifier A is worth its count, as often as it counts. -/
theorem score_of_ofToken {previous : Option Action} {token : Token} {trick : Trick}
    (h : Trick.ofToken previous token = .ok trick) (hmodifier : token.modifier = 'A')
    (hle : token.count.toNat *
      timesCounted (letterBonus (previous.map Action.symbol) token.action) ≤ 2 ^ 53) :
    trick.score = ofNat (token.count.toNat *
      timesCounted (letterBonus (previous.map Action.symbol) token.action)) := by
  have hat := Trick.isAt_of_ofToken h
  have hone : letterWorth 'A' = ofNat 1 := rfl
  rw [hat.score, hat.bonus, hmodifier, hone, Binary64.mul_ofNat_one, contextFactor]
  generalize letterBonus (previous.map Action.symbol) token.action = bonus at hle ⊢
  have hcount :=
    Nat.le_trans (Nat.le_mul_of_pos_right token.count.toNat (timesCounted_pos bonus)) hle
  exact (representable_of_le hcount).ofNat_mul_ofNat
    (representable_of_le (Nat.le_trans (timesCounted_le bonus) (by decide)))
    (representable_of_le hle)

/-- **Whole scores are exact.** -/
theorem map_score_of_resolve {previous : Option Action} {tokens : List Token}
    {tricks : List Trick} (h : Trick.resolve previous tokens = (tricks, none))
    (hmodifier : ∀ token ∈ tokens, token.modifier = 'A')
    (hsum : (wholeScores (previous.map Action.symbol) tokens).sum ≤ 2 ^ 53) :
    tricks.map Trick.score = (wholeScores (previous.map Action.symbol) tokens).map ofNat := by
  induction tokens generalizing previous tricks with
  | nil =>
    obtain rfl := (congrArg Prod.fst h).symm
    rfl
  | cons token tokens ih =>
    obtain ⟨trick, more, htoken, hmore, rfl⟩ := Trick.resolve_cons_eq_iff.mp h
    obtain ⟨hfirst, hrest⟩ := List.forall_mem_cons.mp hmodifier
    have hletter := (Trick.isAt_of_ofToken htoken).letter
    rw [wholeScores, List.sum_cons] at hsum
    rw [wholeScores, List.map_cons, List.map_cons, score_of_ofToken htoken hfirst (by omega),
      ih hmore hrest (by rw [Option.map_some, hletter]; omega), Option.map_some, hletter]

/-- **So is their sum**, from the left. -/
theorem foldl_ofNat {sum : Nat} {scores : List Nat} (h : sum + scores.sum ≤ 2 ^ 53) :
    (scores.map ofNat).foldl (fun sum score => sum + score) (ofNat sum) =
      ofNat (sum + scores.sum) := by
  induction scores generalizing sum with
  | nil => rw [List.map_nil, List.foldl_nil, List.sum_nil, Nat.add_zero]
  | cons score scores ih =>
    rw [List.sum_cons] at h ⊢
    have hadd := (representable_of_le (by omega : sum ≤ 2 ^ 53)).ofNat_add_ofNat
      (representable_of_le (by omega : score ≤ 2 ^ 53)) (representable_of_le (by omega))
    rw [List.map_cons, List.foldl_cons, hadd, ih (by omega), Nat.add_assoc]

/-- **A sequence with whole scores** is scored by them, and its difficulty is that of their sum. -/
theorem exists_ofTokens_whole {tokens : List Token} (hlettered : ∀ token ∈ tokens, token.Lettered)
    (hmodifier : ∀ token ∈ tokens, token.modifier = 'A')
    (hsum : (wholeScores none tokens).sum ≤ 2 ^ 53) :
    ∃ sequence, Sequence.ofTokens tokens = .ok sequence ∧
      sequence.scores = (wholeScores none tokens).map ofNat ∧
      sequence.difficulty = roundDifficulty (ofNat (wholeScores none tokens).sum) := by
  obtain ⟨sequence, h⟩ := Sequence.exists_ofTokens_iff.mpr hlettered
  obtain ⟨tricks, hresolve, rfl⟩ := Sequence.ofTokens_eq_ok_iff.mp h
  have hscores : tricks.map Trick.score = (wholeScores none tokens).map ofNat :=
    map_score_of_resolve hresolve hmodifier hsum
  have hzero : ofNat 0 = Binary64.zero :=
    (Binary64.atMost_ofNat (representable_of_le (Nat.zero_le _)) (Nat.le_refl 0)).eq_zero
  have htotal := foldl_ofNat (by rwa [Nat.zero_add])
  rw [Nat.zero_add, hzero, ← hscores, List.foldl_map] at htotal
  exact ⟨_, h, hscores, congrArg roundDifficulty htotal⟩

/-! ## Which totals come back -/

/-- **The whole number comes back from two decimals**: rounding its hundredfold to 53 bits moves it
by half a step of the number at most, a hundred times. -/
def KeepsWhole (n : Nat) : Prop :=
  (roundToGrid (n * 100) 1 - n * 100 : Int).natAbs * 2 ^ (52 - n.log2) ≤ 50

instance (n : Nat) : Decidable (KeepsWhole n) :=
  inferInstanceAs (Decidable (_ ≤ _))

theorem hundredths_whole (n : Nat) : hundredths (n * unitsPerOne) = roundToGrid (n * 100) 1 := by
  rw [hundredths, scaledUnits, Nat.mul_right_comm, unitsPerOne, Binary64.roundToGrid_mul_two_pow]
  exact Binary64.halfEven_mul_self _ (Nat.two_pow_pos _)

/-- A whole number comes back exactly when its units do. -/
theorem roundDifficulty_ofNat_iff_units {n : Nat} (h : n ≤ 2 ^ 53) :
    roundDifficulty (ofNat n) = ofNat n ↔ difficultyUnits (n * unitsPerOne) = n * unitsPerOne := by
  have hn := representable_of_le h
  have hscale : Representable (2 ^ 53 * 100) :=
    Binary64.representable_two_pow_mul (by decide) (by decide)
  have hle : hn.magnitude.units ≤ 2 ^ 53 * unitsPerOne := by
    rw [hn.units_magnitude]
    exact Nat.mul_le_mul_right unitsPerOne h
  obtain ⟨-, d, -, -, hd, hunits⟩ :=
    roundDifficulty_finite (representable_of_le (Nat.le_refl _)) hscale false hle
  rw [hn.ofNat_eq, hd, Binary64.finite.injEq, Magnitude.ext_iff, hunits, hn.units_magnitude]
  exact and_iff_right rfl

/-- A one is so many steps of a whole number as its 53 bits have places behind the point. -/
theorem spacing_whole_mul {n : Nat} (hne : n ≠ 0) (h : n < 2 ^ 53) :
    spacing (n * unitsPerOne) * 2 ^ (52 - n.log2) = unitsPerOne := by
  have hlog : n.log2 < 53 := (Nat.log2_lt hne).mpr h
  have hbits : n.log2 + leastPlace - 52 + (52 - n.log2) = leastPlace := by
    unfold leastPlace
    omega
  rw [spacing, unitsPerOne, Binary64.log2_mul_two_pow hne, ← Nat.pow_add, hbits]

/-- The rounded hundredfold, counted in the last bits of the number, is a multiple of four. -/
theorem four_dvd_hundredfold {n : Nat} (hne : n ≠ 0) (h : n < 2 ^ 53) :
    4 ∣ roundToGrid (n * 100) 1 * 2 ^ (52 - n.log2) := by
  have hlog : n.log2 < 53 := (Nat.log2_lt hne).mpr h
  have hlog' : n.log2 + 6 ≤ (n * 100).log2 := by
    rw [Nat.le_log2 (by omega), Nat.pow_add]
    exact Nat.mul_le_mul (Nat.log2_self_le hne) (by decide)
  have hbits : 2 ≤ (n * 100).log2 - 52 + (52 - n.log2) := by omega
  rw [roundToGrid, Nat.div_one, Nat.mul_right_comm, spacing, ← Nat.pow_add]
  exact Nat.dvd_mul_right_of_dvd (Nat.pow_dvd_pow 2 hbits) _

/-- The distance of the hundredfold and its rounding, by the last bits of the number. -/
theorem keepsWhole_iff {n : Nat} :
    KeepsWhole n ↔
      roundToGrid (n * 100) 1 * 2 ^ (52 - n.log2) ≤ n * 100 * 2 ^ (52 - n.log2) + 50 ∧
      n * 100 * 2 ^ (52 - n.log2) ≤ roundToGrid (n * 100) 1 * 2 ^ (52 - n.log2) + 50 := by
  unfold KeepsWhole
  generalize roundToGrid (n * 100) 1 = rounded
  rcases Nat.le_total rounded (n * 100) with hle | hle
  · have hdist : (rounded - n * 100 : Int).natAbs = n * 100 - rounded := by omega
    have hmono := Nat.mul_le_mul_right (2 ^ (52 - n.log2)) hle
    rw [hdist, Nat.sub_mul]
    omega
  · have hdist : (rounded - n * 100 : Int).natAbs = rounded - n * 100 := by omega
    have hmono := Nat.mul_le_mul_right (2 ^ (52 - n.log2)) hle
    rw [hdist, Nat.sub_mul]
    omega

/-- A whole number with an exact hundredfold comes back. -/
theorem keepsWhole_of_exact {n : Nat} (h : roundToGrid (n * 100) 1 = n * 100) : KeepsWhole n := by
  rw [keepsWhole_iff, h]
  exact ⟨Nat.le_add_right _ _, Nat.le_add_right _ _⟩

section Scales

variable {step w one : Nat} (hbits : step * w = one) (p q : Nat)
include hbits

theorem two_scales :
    2 * (p * one) * w = 2 * (p * w) * one ∧
      (2 * (q * one) + 100 * step) * w = (2 * (q * w) + 100) * one := by
  have hswap : ∀ p, 2 * (p * one) * w = 2 * (p * w) * one := fun p => by
    rw [← Nat.mul_assoc, ← Nat.mul_assoc, Nat.mul_right_comm]
  refine ⟨hswap p, ?_⟩
  rw [Nat.add_mul, hswap, Nat.mul_assoc 100, hbits, ← Nat.add_mul]

variable (hw : 0 < w) (hone : 0 < one)
include hw hone

/-- Comparing in units is comparing in the last bits of a number, of which a step is one. -/
theorem two_mul_le_add_step_iff :
    2 * (p * one) ≤ 2 * (q * one) + 100 * step ↔ 2 * (p * w) ≤ 2 * (q * w) + 100 := by
  obtain ⟨hleft, hright⟩ := two_scales hbits p q
  rw [← Nat.mul_le_mul_right_iff hw, hleft, hright, Nat.mul_le_mul_right_iff hone]

theorem two_mul_lt_add_step_iff :
    2 * (p * one) < 2 * (q * one) + 100 * step ↔ 2 * (p * w) < 2 * (q * w) + 100 := by
  obtain ⟨hleft, hright⟩ := two_scales hbits p q
  rw [← Nat.mul_lt_mul_right hw, hleft, hright, Nat.mul_lt_mul_right hone]

end Scales

/-- The hundredfold of a power of two is exact. -/
theorem hundredfold_two_pow {n : Nat} (h : 2 ^ n.log2 = n) : roundToGrid (n * 100) 1 = n * 100 := by
  rw [← h]
  exact Binary64.roundToGrid_of_onGrid (Binary64.onGrid_two_pow_mul _ (by decide))

/-- **Which whole numbers come back.** A hundredfold that is rounded by less than half a step of the
number, a hundred times, comes back to it, and one that is rounded by more does not. Exactly half a
step is not possible, since the distance is a multiple of four. -/
theorem difficultyUnits_whole_iff {n : Nat} (h : n < 2 ^ 53) :
    difficultyUnits (n * unitsPerOne) = n * unitsPerOne ↔ KeepsWhole n := by
  have hgrid := (representable_of_le (Nat.le_of_lt h)).onGrid
  rw [difficultyUnits, hundredths_whole]
  by_cases hexact : roundToGrid (n * 100) 1 = n * 100
  · refine iff_of_true ?_ (keepsWhole_of_exact hexact)
    rw [hexact, Nat.mul_right_comm, Binary64.roundToGrid_mul_self hgrid (by decide)]
  have hne : n ≠ 0 := by
    rintro rfl
    exact hexact (Binary64.roundToGrid_zero 1)
  have hpow : 2 ^ (n * unitsPerOne).log2 < n * unitsPerOne := by
    rw [unitsPerOne, Binary64.log2_mul_two_pow hne, Nat.pow_add]
    refine Nat.mul_lt_mul_of_pos_right ?_ (Nat.two_pow_pos _)
    exact Nat.lt_of_le_of_ne (Nat.log2_self_le hne) fun heq => hexact (hundredfold_two_pow heq)
  have hbits := spacing_whole_mul hne h
  have hw := Nat.two_pow_pos (52 - n.log2)
  have hfour := four_dvd_hundredfold hne h
  have hfour' : 4 ∣ n * 100 * 2 ^ (52 - n.log2) :=
    Nat.dvd_mul_right_of_dvd (Nat.dvd_mul_left_of_dvd (by decide) n) _
  rw [keepsWhole_iff]
  generalize roundToGrid (n * 100) 1 = rounded at hfour ⊢
  generalize 2 ^ (52 - n.log2) = w at hbits hw hfour hfour' ⊢
  constructor
  · intro heq
    have hup := Binary64.two_mul_roundToGrid_le (rounded * unitsPerOne) 100
    have hdown := Binary64.le_two_mul_roundToGrid (rounded * unitsPerOne) (by decide : 0 < 100)
    rw [heq, Nat.mul_right_comm,
      two_mul_le_add_step_iff hbits _ _ hw unitsPerOne_pos] at hup hdown
    generalize n * 100 * w = hundredfold at hup hdown ⊢
    omega
  · rintro ⟨hup, hdown⟩
    have hlt := fun p q => two_mul_lt_add_step_iff hbits p q hw unitsPerOne_pos
    generalize hfold : n * 100 * w = hundredfold at hup hdown hfour'
    refine Binary64.roundToGrid_eq_of_near (by decide) hgrid hpow ?_ ?_
    · rw [Nat.mul_right_comm, hlt, hfold]
      omega
    · rw [Nat.mul_right_comm, hlt, hfold]
      omega

/-- **Which whole totals come back**, as numbers. -/
theorem roundDifficulty_ofNat_iff {n : Nat} (h : n < 2 ^ 53) :
    roundDifficulty (ofNat n) = ofNat n ↔ KeepsWhole n :=
  (roundDifficulty_ofNat_iff_units (Nat.le_of_lt h)).trans (difficultyUnits_whole_iff h)

/-- **Up to `2 ^ 55 / 100` every whole number comes back**: its hundredfold is a multiple of four
and so is exact. -/
theorem keepsWhole_of_le {n : Nat} (h : n * 100 ≤ 2 ^ 55) : KeepsWhole n := by
  have hfold : n * 100 = 2 ^ 2 * (n * 25) := by omega
  have hexact : roundToGrid (n * 100) 1 = n * 100 := by
    rw [hfold]
    exact Binary64.roundToGrid_of_onGrid (Binary64.onGrid_two_pow_mul 2 (by omega))
  exact keepsWhole_of_exact hexact

/-- **Up to 1.28 times a power of two every whole number comes back**: its hundredfold has six bits
more, and half a step of that is 32 last bits of the number. -/
theorem keepsWhole_of_lt {n : Nat} (h : n < 2 ^ 53) (hbelow : n * 100 < 2 ^ (n.log2 + 7)) :
    KeepsWhole n := by
  by_cases hsmall : n * 100 ≤ 2 ^ 55
  · exact keepsWhole_of_le hsmall
  have hne : n ≠ 0 := by omega
  have hlog : n.log2 < 53 := (Nat.log2_lt hne).mpr h
  have hfold : (n * 100).log2 < n.log2 + 7 := (Nat.log2_lt (by omega)).mpr hbelow
  have hfold' : 55 ≤ (n * 100).log2 := (Nat.le_log2 (by omega)).mpr (by omega)
  have hstep : spacing (n * 100) * 2 ^ (52 - n.log2) ≤ 64 := by
    rw [spacing, ← Nat.pow_add]
    exact Nat.pow_le_pow_right (by decide) (by omega : _ ≤ 6)
  have hrounded : roundToGrid (n * 100) 1 =
      halfEven (n * 100) (spacing (n * 100)) * spacing (n * 100) := by
    rw [roundToGrid, Nat.div_one, Nat.one_mul, Nat.mul_comm]
  have hup := Nat.mul_le_mul_right (2 ^ (52 - n.log2))
    (Binary64.two_mul_halfEven_le (n * 100) (spacing (n * 100)))
  have hdown := Nat.mul_le_mul_right (2 ^ (52 - n.log2))
    (Binary64.le_two_mul_halfEven (n * 100) (Binary64.spacing_pos (n * 100)))
  rw [← hrounded, Nat.add_mul, Nat.mul_assoc, Nat.mul_assoc 2] at hup hdown
  rw [keepsWhole_iff]
  generalize n * 100 * 2 ^ (52 - n.log2) = hundredfold at hup hdown ⊢
  omega

namespace Sequence

variable {tokens : List Token}

/-- **What becomes of whole totals.** Where all modifiers are A and the sum of the whole scores is
below `2 ^ 53`, scores and total are exact, but the difficulty is the total only if that comes back
from two decimals. It does up to `2 ^ 55 / 100`, and above that from every power of two to 1.28
times the power. -/
theorem ofTokens_wholeTotal (hlettered : ∀ token ∈ tokens, token.Lettered)
    (hmodifier : ∀ token ∈ tokens, token.modifier = 'A')
    (hsum : (wholeScores none tokens).sum < 2 ^ 53) :
    ∃ sequence, ofTokens tokens = .ok sequence ∧
      sequence.scores = (wholeScores none tokens).map ofNat ∧
      sequence.difficulty = roundDifficulty (ofNat (wholeScores none tokens).sum) ∧
      (sequence.difficulty = ofNat (wholeScores none tokens).sum ↔
        KeepsWhole (wholeScores none tokens).sum) ∧
      ((wholeScores none tokens).sum * 100 ≤ 2 ^ 55 ∨
          (wholeScores none tokens).sum * 100 < 2 ^ ((wholeScores none tokens).sum.log2 + 7) →
        sequence.difficulty = ofNat (wholeScores none tokens).sum) := by
  obtain ⟨sequence, h, hscores, hdifficulty⟩ :=
    exists_ofTokens_whole hlettered hmodifier (Nat.le_of_lt hsum)
  have hiff := roundDifficulty_ofNat_iff hsum
  rw [← hdifficulty] at hiff
  refine ⟨sequence, h, hscores, hdifficulty, hiff, ?_⟩
  rintro (hle | hlt)
  · exact hiff.mpr (keepsWhole_of_le hle)
  · exact hiff.mpr (keepsWhole_of_lt hsum hlt)

/-- Four times a 360 and three cash rolls behind it are worth ten. -/
theorem ofTokens_wholeTotal_cashRoll :
    ∃ sequence, ofTokens [⟨'L', 4, 'A'⟩, ⟨'R', 3, 'A'⟩] = .ok sequence ∧
      sequence.difficulty = ofNat 10 := by
  have hsum : (wholeScores none [⟨'L', 4, 'A'⟩, ⟨'R', 3, 'A'⟩]).sum = 10 := by decide
  obtain ⟨sequence, h, -, -, hiff, -⟩ := @ofTokens_wholeTotal [⟨'L', 4, 'A'⟩, ⟨'R', 3, 'A'⟩]
    (by decide) (by decide) (by decide)
  rw [hsum] at hiff
  exact ⟨sequence, h, hiff.mpr (by decide)⟩

/-- An odd total just above `2 ^ 55 / 100`. It does not come back. -/
theorem ofTokens_wholeTotal_missed :
    (wholeScores none [⟨'L', 360287970189641, 'A'⟩]).sum = 360287970189641 ∧
    ∃ sequence, ofTokens [⟨'L', 360287970189641, 'A'⟩] = .ok sequence ∧
      sequence.scores = [ofNat 360287970189641] ∧
      sequence.difficulty ≠ ofNat 360287970189641 := by
  have hsum : (wholeScores none [⟨'L', 360287970189641, 'A'⟩]).sum = 360287970189641 := by decide
  have hscores : wholeScores none [⟨'L', 360287970189641, 'A'⟩] = [360287970189641] := by decide
  obtain ⟨sequence, h, hexact, hdifficulty⟩ :=
    @exists_ofTokens_whole [⟨'L', 360287970189641, 'A'⟩] (by decide) (by decide) (by decide)
  refine ⟨hsum, sequence, h, by rw [hexact, hscores]; rfl, ?_⟩
  rw [hdifficulty, hsum, ne_eq, roundDifficulty_ofNat_iff (by decide)]
  decide +kernel

end Sequence

end TrickScore
