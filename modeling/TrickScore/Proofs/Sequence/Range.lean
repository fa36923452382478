import TrickScore.Proofs.Binary64.Unsigned
import TrickScore.Proofs.Json.Numbers
import TrickScore.Proofs.Sequence.Pointwise

/-!
# The range of scores and difficulties

A count is below `2 ^ 64`, a modifier is worth two at most and a bonus three, so every score is
bounded by `6 * 2 ^ 64`. A sequence can have any length, so this does not bound the total. But a
total of `2 ^ 120` has its next neighbour `2 ^ 68` further on, and twice a score is less than that:
such a total stays where it is, whatever is added. So `2 ^ 120` is an invariant of the sum, and no
sequence comes near the largest binary64 number.

Headlines:
* `atMost_trickScore`: the bound of a score by its count.
* `atMost_add_score`, `atMost_total`: the bound of every total, by absorption.
* `atMost_roundDifficulty`: a difficulty does not pass a bound of its total, taken a hundred times.
* **`Sequence.ofTokens_inRange`**: no score and no difficulty leaves the finite range.
-/

namespace TrickScore

open Binary64 (ofNat AtMost Representable representable_of_le representable_two_pow
  representable_two_pow_mul unitsPerOne_pos)

/-! ## Scores -/

theorem Modifier.atMost_multiplier (modifier : Modifier) : modifier.multiplier.AtMost 2 := by
  have htwo : Representable 2 := representable_of_le (by decide)
  cases modifier with
  | a => exact Binary64.atMost_ofNat htwo (by decide)
  | b => exact Binary64.atMost_ofFraction htwo (by decide) (by decide)
  | c => exact Binary64.atMost_ofFraction htwo (by decide) (by decide)
  | d => exact Binary64.atMost_ofFraction htwo (by decide) (by decide)
  | e => exact Binary64.atMost_ofFraction htwo (by decide) (by decide)

theorem atMost_contextMultiplier (bonus : Option Bonus) : (contextMultiplier bonus).AtMost 3 := by
  refine Binary64.atMost_ofNat (representable_of_le (by decide)) ?_
  rcases bonus with _ | _ | _ <;> decide

/-- A count by what its modifier is worth is at most twice a bound of the count. -/
theorem atMost_mul_multiplier {count : UInt64} {s e : Nat} (hs : s * 2 ≤ 2 ^ 53) (he : e ≤ 970)
    (h : count.toNat ≤ 2 ^ e * s) (modifier : Modifier) :
    (ofNat count.toNat * modifier.multiplier).AtMost (2 ^ e * (s * 2)) := by
  have hcount : (ofNat count.toNat).AtMost (2 ^ e * s) :=
    Binary64.atMost_ofNat (representable_two_pow_mul (by omega) he) h
  exact hcount.mul modifier.atMost_multiplier (representable_two_pow_mul hs he)
    (Nat.le_of_eq (Nat.mul_assoc _ _ _))

/-- **A score is at most six times a bound of its count**, where these are binary64 numbers. -/
theorem atMost_trickScore {count : UInt64} {s e : Nat} (hs : s * 2 * 3 ≤ 2 ^ 53) (he : e ≤ 970)
    (h : count.toNat ≤ 2 ^ e * s) (modifier : Modifier) (bonus : Option Bonus) :
    (trickScore count modifier bonus).AtMost (2 ^ e * (s * 2 * 3)) :=
  (atMost_mul_multiplier (by omega) he h modifier).mul (atMost_contextMultiplier bonus)
    (representable_two_pow_mul hs he) (Nat.le_of_eq (Nat.mul_assoc _ _ _))

theorem toNat_le_two_pow_mul_one (count : UInt64) : count.toNat ≤ 2 ^ 64 * 1 := by
  rw [Nat.mul_one]
  exact Nat.le_of_lt count.toNat_lt

/-- Every trick is scored by the count of a token. -/
theorem Trick.exists_token_of_mem_resolve {previous : Option Action} {tokens : List Token}
    {tricks : List Trick} (h : resolve previous tokens = (tricks, none)) {trick : Trick}
    (hmem : trick ∈ tricks) :
    ∃ token ∈ tokens, ∃ modifier bonus, trick.score = trickScore token.count modifier bonus := by
  induction tokens generalizing previous tricks with
  | nil =>
    obtain rfl : [] = tricks := congrArg Prod.fst h
    cases hmem
  | cons token tokens ih =>
    obtain ⟨first, more, htoken, hmore, rfl⟩ := resolve_cons_eq_iff.mp h
    rcases List.mem_cons.mp hmem with rfl | hmem
    · obtain ⟨action, modifier, -, -, rfl⟩ := ofToken_eq_ok_iff.mp htoken
      exact ⟨token, List.mem_cons_self, modifier, _, rfl⟩
    · obtain ⟨other, hother, hscore⟩ := ih hmore hmem
      exact ⟨other, List.mem_cons_of_mem _ hother, hscore⟩

/-! ## Totals and difficulties -/

namespace Sequence

/-- What holds of nothing and of every sum with one more score holds of the total. -/
theorem total_induction {P : Binary64 → Prop} {tricks : List Trick} (hzero : P Binary64.zero)
    (hadd : ∀ sum, P sum → ∀ trick ∈ tricks, P (sum + trick.score)) : P (total tricks) :=
  List.foldlRecOn tricks _ hzero hadd

theorem atMost_zero (n : Nat) : Binary64.zero.AtMost n :=
  ⟨_, rfl, Nat.zero_le _⟩

/-- **A total of `2 ^ 120` is not passed by one more score.** A score of `6 * 2 ^ 64` is less than
half of the step `2 ^ 68` there. -/
theorem atMost_add_score {sum score : Binary64} (hsum : sum.AtMost (2 ^ 120))
    (hscore : score.AtMost (2 ^ 64 * 6)) : (sum + score).AtMost (2 ^ 120) := by
  refine hsum.add_absorbed hscore (representable_two_pow (by decide)) ?_
  have hstep := Binary64.spacing_two_pow 120
  have hpos := unitsPerOne_pos
  omega

/-- **So it is passed by no total**, however many the scores are. -/
theorem atMost_total {tricks : List Trick} (h : ∀ trick ∈ tricks, trick.score.AtMost (2 ^ 64 * 6)) :
    (total tricks).AtMost (2 ^ 120) :=
  total_induction (atMost_zero _) fun _ hsum trick htrick => atMost_add_score hsum (h trick htrick)

end Sequence

/-- **A difficulty does not pass a hundred times a bound of its total.** -/
theorem atMost_roundDifficulty {total : Binary64} {n m : Nat} (h : total.AtMost n)
    (hm : Representable m) (hnm : n * 100 ≤ m) : (roundDifficulty total).AtMost m := by
  have hhundred : Representable 100 := representable_of_le (by decide)
  have hscaled : (total * ofNat 100).AtMost m :=
    h.mul (Binary64.atMost_ofNat hhundred (Nat.le_refl 100)) hm hnm
  exact (hscaled.roundToInteger hm).div hm hhundred (by decide)

/-! ## Sequences of any length -/

namespace Sequence

variable {tokens : List Token} {tricks : List Trick}

/-- The bound of every score. -/
theorem atMost_score (h : Trick.resolve none tokens = (tricks, none)) {trick : Trick}
    (hmem : trick ∈ tricks) : trick.score.AtMost (2 ^ 64 * 6) := by
  obtain ⟨token, -, modifier, bonus, hscore⟩ := Trick.exists_token_of_mem_resolve h hmem
  rw [hscore]
  exact atMost_trickScore (by decide) (by decide) (toNat_le_two_pow_mul_one _) modifier bonus

/-- What counts nothing is not difficult. -/
theorem difficulty_eq_zero (h : Trick.resolve none tokens = (tricks, none))
    (hcounts : ∀ token ∈ tokens, token.count = 0) : (ofTricks tricks).difficulty = .zero := by
  have hzero : Representable 0 := representable_of_le (Nat.zero_le _)
  have hscores : ∀ trick ∈ tricks, trick.score.AtMost 0 := by
    intro trick hmem
    obtain ⟨token, htoken, modifier, bonus, hscore⟩ := Trick.exists_token_of_mem_resolve h hmem
    rw [hscore, hcounts token htoken]
    exact atMost_trickScore (s := 0) (e := 0) (by decide) (by decide) (by decide) modifier bonus
  have htotal : (total tricks).AtMost 0 :=
    total_induction (atMost_zero 0) fun _ hsum trick htrick =>
      hsum.add (hscores trick htrick) hzero (by decide)
  exact (atMost_roundDifficulty htotal hzero (by decide)).eq_zero

/-- **No score and no difficulty leaves the finite range**, however long the sequence is. Every
score is finite, has its sign bit clear and is below `2 ^ 67`. Every total on the way is `2 ^ 120`
at most, so scaling it does not overflow, and the difficulty is finite with its sign bit clear. So
all of these are written as JSON numbers. Where every count is zero, the difficulty is zero. -/
theorem ofTokens_inRange {sequence : Sequence} (h : ofTokens tokens = .ok sequence) :
    (∀ score ∈ sequence.scores, score < ofNat (2 ^ 67)) ∧
    (∀ n, (total (sequence.tricks.take n)).IsUnsigned ∧
      total (sequence.tricks.take n) ≤ ofNat (2 ^ 120)) ∧
    (total sequence.tricks * ofNat 100).IsUnsigned ∧
    (∀ x ∈ sequence.difficulty :: sequence.scores,
      x.IsUnsigned ∧ x.toBits.toNat < 2047 * 2 ^ 52 ∧ Json.IsNumber (Json.number x)) ∧
    ((∀ token ∈ tokens, token.count = 0) → sequence.difficulty = .zero) := by
  obtain ⟨tricks, hresolve, rfl⟩ := ofTokens_eq_ok_iff.mp h
  have hscores : ∀ trick ∈ tricks, trick.score.AtMost (2 ^ 64 * 6) :=
    fun trick hmem => atMost_score hresolve hmem
  have htotal : (total tricks).AtMost (2 ^ 120) := atMost_total hscores
  have hscaled : Representable (2 ^ 127) := representable_two_pow (by decide)
  have hdifficulty : (ofTricks tricks).difficulty.AtMost (2 ^ 127) :=
    atMost_roundDifficulty htotal hscaled (by decide)
  have hunsigned : ∀ x ∈ (ofTricks tricks).difficulty :: (ofTricks tricks).scores,
      x.IsUnsigned := by
    refine List.forall_mem_cons.mpr ⟨hdifficulty.isUnsigned, fun score hscore => ?_⟩
    obtain ⟨trick, hmem, rfl⟩ := List.mem_map.mp hscore
    exact (hscores trick hmem).isUnsigned
  refine ⟨fun score hscore => ?_, fun n => ?_, ?_, fun x hx => ?_, difficulty_eq_zero hresolve⟩
  · obtain ⟨trick, hmem, rfl⟩ := List.mem_map.mp hscore
    exact (hscores trick hmem).lt_ofNat (representable_two_pow (by decide)) (by decide)
  · refine (Binary64.atMost_iff (representable_two_pow (by decide))).mp ?_
    exact atMost_total fun trick hmem => hscores trick (List.mem_of_mem_take hmem)
  · have hhundred : Representable 100 := representable_of_le (by decide)
    exact (htotal.mul (Binary64.atMost_ofNat hhundred (Nat.le_refl 100)) hscaled
      (by decide)).isUnsigned
  · obtain ⟨m, hm⟩ := hunsigned x hx
    exact ⟨⟨m, hm⟩, Binary64.isUnsigned_iff_toBits.mp ⟨m, hm⟩,
      Json.isNumber_number_iff.mpr ⟨false, m, hm⟩⟩

/-- The largest counts, with a bonus. -/
theorem ofTokens_inRange_largest :
    ∃ sequence,
      ofTokens [⟨'T', 18446744073709551615, 'E'⟩, ⟨'S', 18446744073709551615, 'E'⟩] = .ok sequence ∧
        (total sequence.tricks * ofNat 100).IsUnsigned := by
  have hletters : ∀ token ∈ [⟨'T', 18446744073709551615, 'E'⟩, ⟨'S', 18446744073709551615, 'E'⟩],
      Token.Lettered token := by decide
  obtain ⟨sequence, h⟩ := exists_ofTokens_iff.mpr hletters
  exact ⟨sequence, h, (ofTokens_inRange h).2.2.1⟩

end Sequence

end TrickScore
