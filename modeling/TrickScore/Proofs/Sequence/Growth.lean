import TrickScore.Proofs.Sequence.Range

/-!
# Doing more never scores less

A sequence grows in two ways: tricks are put behind it, or its tricks are done more often and under
higher modifiers. Neither makes a score or the difficulty smaller, although every product, every sum
and the difficulty itself are rounded: each operation keeps the order, and a sum is never rounded
below one of its summands.

In the second way the letters stay, so the bonuses stay, and two sums run side by side over tricks
of which each is scored at least as high as the other.

Headlines:
* `roundDifficulty_mono`: a larger total is no less difficult.
* `trickScore_mono`: a trick done more often or under a higher modifier is scored no lower.
* `total_le_total_append`: more tricks make no total smaller.
* `foldl_score_mono`, `Trick.resolve_grows`: nor do tricks that are done more often.
* **`Sequence.ofTokens_grows`**: both ways together.
-/

namespace TrickScore

open Binary64 (ofNat AtMost Representable representable_of_le)

/-! ## Difficulties and scores -/

/-- **A larger total is no less difficult.** -/
theorem roundDifficulty_mono {total other : Binary64} (h : total ≤ other) :
    roundDifficulty total ≤ roundDifficulty other := by
  have hhundred : Representable 100 := representable_of_le (by decide)
  have hscaled := Binary64.mul_le_mul_right hhundred (by decide) h
  have hwhole := Binary64.roundToInteger_le_roundToInteger hscaled
  exact Binary64.div_le_div_right hhundred (by decide) hwhole

namespace Modifier

/-- What one repetition is worth, in tenths. -/
def tenths : Modifier → Nat
  | a => 10
  | b => 12
  | c => 14
  | d => 16
  | e => 18

theorem multiplier_eq_ofFraction (modifier : Modifier) :
    modifier.multiplier = .ofFraction modifier.tenths 10 := by
  cases modifier with
  | a =>
    unfold multiplier tenths Binary64.ofNat Binary64.ofFraction
    rw [show 10 * Binary64.unitsPerOne = 1 * Binary64.unitsPerOne * 10 by omega]
    exact (Binary64.ofQuotient_congr (Binary64.roundToGrid_mul_right _ 1 (by decide))).symm
  | _ => rfl

theorem tenths_mono {modifier other : Modifier} (h : modifier.symbol ≤ other.symbol) :
    modifier.tenths ≤ other.tenths := by
  revert h
  cases modifier <;> cases other <;> decide

/-- A later letter is worth no less. -/
theorem multiplier_mono {modifier other : Modifier} (h : modifier.symbol ≤ other.symbol) :
    modifier.multiplier ≤ other.multiplier := by
  rw [multiplier_eq_ofFraction, multiplier_eq_ofFraction]
  exact Binary64.ofQuotient_le_ofQuotient _ (Nat.mul_le_mul_right _ (tenths_mono h))

end Modifier

/-- **A trick done more often or under a higher modifier is scored no lower.** -/
theorem trickScore_mono {count other : UInt64} (hcount : count ≤ other)
    {modifier harder : Modifier} (hmodifier : modifier.symbol ≤ harder.symbol)
    (bonus : Option Bonus) : trickScore count modifier bonus ≤ trickScore other harder bonus := by
  have hofNat : ∀ count : UInt64, (ofNat count.toNat).IsUnsigned := fun count =>
    (Binary64.atMost_ofNat (Binary64.representable_two_pow (by decide))
      (Nat.le_of_lt count.toNat_lt)).isUnsigned
  have hworth : ∀ (count : UInt64) (modifier : Modifier),
      (ofNat count.toNat * modifier.multiplier).IsUnsigned := fun count modifier =>
    (atMost_mul_multiplier (by decide) (by decide) (toNat_le_two_pow_mul_one count)
      modifier).isUnsigned
  have hcontext := (atMost_contextMultiplier bonus).isUnsigned
  have hle : ofNat count.toNat * modifier.multiplier ≤ ofNat other.toNat * harder.multiplier :=
    Binary64.mul_le_mul (hofNat count) (hofNat other) modifier.atMost_multiplier.isUnsigned
      harder.atMost_multiplier.isUnsigned
      (Binary64.ofNat_le_ofNat (UInt64.le_iff_toNat_le.mp hcount))
      (Modifier.multiplier_mono hmodifier)
  exact Binary64.mul_le_mul (hworth count modifier) (hworth other harder) hcontext hcontext hle
    hcontext.le_refl

/-! ## Tricks done more often -/

/-- **The same trick, done at least as often and under the same or a later modifier letter.** -/
structure Token.Grows (token more : Token) : Prop where
  action : more.action = token.action
  count : token.count ≤ more.count
  modifier : token.modifier ≤ more.modifier
  lettered : more.modifier ∈ ['A', 'B', 'C', 'D', 'E']

namespace Trick

theorem ofToken_grows {previous : Option Action} {token more : Token} (hgrows : token.Grows more)
    {trick : Trick} (h : ofToken previous token = .ok trick) :
    ∃ grown, ofToken previous more = .ok grown ∧ grown.action = trick.action ∧
      trick.score ≤ grown.score := by
  obtain ⟨action, modifier, ha, hm, rfl⟩ := ofToken_eq_ok_iff.mp h
  obtain ⟨harder, hharder⟩ : ∃ harder, more.modifier = Modifier.symbol harder :=
    @Alphabet.exists_symbol_of_mem _ Modifier.alphabet _ hgrows.lettered
  refine ⟨_, ofToken_eq_ok_iff.mpr ⟨action, harder, hgrows.action.trans ha, hharder, rfl⟩, rfl, ?_⟩
  refine trickScore_mono hgrows.count ?_ _
  rw [← hm, ← hharder]
  exact hgrows.modifier

/-- **Tokens that grow are resolved to tricks that are scored no lower**: their letters are the
same, so every trick hands on the same action. -/
theorem resolve_grows {previous : Option Action} {tokens more : List Token}
    (hgrows : List.Forall₂ Token.Grows tokens more) {tricks : List Trick}
    (h : resolve previous tokens = (tricks, none)) :
    ∃ grown, resolve previous more = (grown, none) ∧
      List.Forall₂ (fun trick other => trick.score ≤ other.score) tricks grown := by
  induction hgrows generalizing previous tricks with
  | nil =>
    obtain rfl : [] = tricks := congrArg Prod.fst h
    exact ⟨[], rfl, .nil⟩
  | cons htoken _ ih =>
    obtain ⟨trick, rest, hfirst, hrest, rfl⟩ := resolve_cons_eq_iff.mp h
    obtain ⟨grown, hgrown, haction, hscore⟩ := ofToken_grows htoken hfirst
    obtain ⟨others, hothers, hscores⟩ := ih hrest
    refine ⟨grown :: others, resolve_cons_eq_iff.mpr ⟨grown, others, hgrown, ?_, rfl⟩,
      .cons hscore hscores⟩
    rw [haction]
    exact hothers

end Trick

/-! ## Totals -/

namespace Sequence

/-- **Tricks that are scored no lower have no smaller total**, from any beginnings in that order.
-/
theorem foldl_score_mono {tricks others : List Trick}
    (hle : List.Forall₂ (fun trick other => trick.score ≤ other.score) tricks others)
    (htricks : ∀ trick ∈ tricks, trick.score.AtMost (2 ^ 64 * 6))
    (hothers : ∀ other ∈ others, other.score.AtMost (2 ^ 64 * 6)) {x y : Binary64}
    (hx : x.AtMost (2 ^ 120)) (hy : y.AtMost (2 ^ 120)) (hxy : x ≤ y) :
    tricks.foldl (fun sum trick => sum + trick.score) x ≤
      others.foldl (fun sum trick => sum + trick.score) y := by
  induction hle generalizing x y with
  | nil => exact hxy
  | cons hscore _ ih =>
    obtain ⟨htrick, htricks⟩ := List.forall_mem_cons.mp htricks
    obtain ⟨hother, hothers⟩ := List.forall_mem_cons.mp hothers
    exact ih htricks hothers (atMost_add_score hx htrick) (atMost_add_score hy hother)
      (Binary64.add_le_add hx.isUnsigned hy.isUnsigned htrick.isUnsigned hother.isUnsigned hxy
        hscore)

/-- **More tricks make no total smaller.** -/
theorem total_le_total_append {first second : List Trick}
    (hfirst : ∀ trick ∈ first, trick.score.AtMost (2 ^ 64 * 6))
    (hsecond : ∀ trick ∈ second, trick.score.AtMost (2 ^ 64 * 6)) :
    total first ≤ total (first ++ second) := by
  have hstart := atMost_total hfirst
  have hrun : (total (first ++ second)).AtMost (2 ^ 120) ∧
      total first ≤ total (first ++ second) := by
    rw [total, List.foldl_append]
    refine List.foldlRecOn (motive := fun sum => sum.AtMost (2 ^ 120) ∧ total first ≤ sum) second
      _ ⟨hstart, hstart.isUnsigned.le_refl⟩ fun sum hsum trick htrick => ?_
    have hscore := hsecond trick htrick
    exact ⟨atMost_add_score hsum.1 hscore,
      Binary64.le_trans hsum.2 (Binary64.le_add_right hsum.1.isUnsigned hscore.isUnsigned)⟩
  exact hrun.2

/-! ## Sequences that grow -/

/-- A beginning is no more difficult than the whole. -/
theorem difficulty_le_of_append {first second : List Token} {sequence longer : Sequence}
    (h : ofTokens first = .ok sequence) (hlonger : ofTokens (first ++ second) = .ok longer) :
    sequence.difficulty ≤ longer.difficulty := by
  obtain ⟨tricks, hresolve, rfl⟩ := ofTokens_eq_ok_iff.mp h
  obtain ⟨all, hall, rfl⟩ := ofTokens_eq_ok_iff.mp hlonger
  have hscores : ∀ trick ∈ all, trick.score.AtMost (2 ^ 64 * 6) :=
    fun trick hmem => atMost_score hall hmem
  rw [Trick.resolve_append, hresolve] at hall
  obtain rfl : tricks ++ (Trick.resolve (Trick.lastAction none tricks) second).1 = all :=
    congrArg Prod.fst hall
  obtain ⟨hfirst, hsecond⟩ := List.forall_mem_append.mp hscores
  exact roundDifficulty_mono (total_le_total_append hfirst hsecond)

/-- Sequences whose tricks are done at least as often are no less difficult. -/
theorem exists_ofTokens_of_grows {tokens more : List Token}
    (hgrows : List.Forall₂ Token.Grows tokens more) {sequence : Sequence}
    (h : ofTokens tokens = .ok sequence) :
    ∃ grown, ofTokens more = .ok grown ∧
      List.Forall₂ (fun score other => score ≤ other) sequence.scores grown.scores ∧
      sequence.difficulty ≤ grown.difficulty := by
  obtain ⟨tricks, hresolve, rfl⟩ := ofTokens_eq_ok_iff.mp h
  obtain ⟨others, hothers, hscores⟩ := Trick.resolve_grows hgrows hresolve
  refine ⟨_, ofTokens_eq_ok_iff.mpr ⟨others, hothers, rfl⟩, ?_, ?_⟩
  · unfold scores
    rw [List.forall₂_map_left_iff, List.forall₂_map_right_iff]
    exact hscores
  · refine roundDifficulty_mono ?_
    exact foldl_score_mono hscores (fun trick hmem => atMost_score hresolve hmem)
      (fun trick hmem => atMost_score hothers hmem) (atMost_zero _) (atMost_zero _)
      (atMost_zero 0).isUnsigned.le_refl

/-- **Doing more never scores less.** A scored token list with more tokens behind it is no less
difficult, so the difficulties of its beginnings never decrease. One with the same action letters,
counts at least as high and modifier letters that are the same or later is scored too: each of its
scores is no lower, and it is no less difficult. -/
theorem ofTokens_grows {tokens : List Token} {sequence : Sequence}
    (h : ofTokens tokens = .ok sequence) :
    (∀ more longer, ofTokens (tokens ++ more) = .ok longer →
      sequence.difficulty ≤ longer.difficulty) ∧
    (∀ n n', n ≤ n' → ∃ earlier later, ofTokens (tokens.take n) = .ok earlier ∧
      ofTokens (tokens.take n') = .ok later ∧ earlier.difficulty ≤ later.difficulty) ∧
    ∀ more, List.Forall₂ Token.Grows tokens more → ∃ grown, ofTokens more = .ok grown ∧
      List.Forall₂ (fun score other => score ≤ other) sequence.scores grown.scores ∧
      sequence.difficulty ≤ grown.difficulty := by
  refine ⟨fun more longer hlonger => difficulty_le_of_append h hlonger, fun n n' hle => ?_,
    fun more hgrows => exists_ofTokens_of_grows hgrows h⟩
  have hletters := exists_ofTokens_iff.mp ⟨sequence, h⟩
  have htake : ∀ n, ∃ beginning, ofTokens (tokens.take n) = .ok beginning := fun n =>
    exists_ofTokens_iff.mpr fun token htoken => hletters token (List.mem_of_mem_take htoken)
  obtain ⟨earlier, hearlier⟩ := htake n
  obtain ⟨later, hlater⟩ := htake n'
  refine ⟨earlier, later, hearlier, hlater, ?_⟩
  -- The longer beginning is the shorter one with more behind it.
  have hsplit : tokens.take n' = tokens.take n ++ (tokens.take n').drop n := by
    have hjoin := List.take_append_drop n (tokens.take n')
    rw [List.take_take, Nat.min_eq_left hle] at hjoin
    exact hjoin.symm
  rw [hsplit] at hlater
  exact difficulty_le_of_append hearlier hlater

/-- A 360 done more often and a harder cash roll, both with the same bonus. -/
theorem ofTokens_grows_cashRoll :
    ∃ sequence grown, ofTokens [⟨'L', 4, 'B'⟩, ⟨'R', 3, 'A'⟩] = .ok sequence ∧
      ofTokens [⟨'L', 9, 'B'⟩, ⟨'R', 3, 'E'⟩] = .ok grown ∧
      sequence.difficulty ≤ grown.difficulty := by
  have hletters : ∀ token ∈ [⟨'L', 4, 'B'⟩, ⟨'R', 3, 'A'⟩], Token.Lettered token := by decide
  obtain ⟨sequence, h⟩ := exists_ofTokens_iff.mpr hletters
  have hgrows : List.Forall₂ Token.Grows [⟨'L', 4, 'B'⟩, ⟨'R', 3, 'A'⟩]
      [⟨'L', 9, 'B'⟩, ⟨'R', 3, 'E'⟩] :=
    .cons ⟨rfl, by decide, by decide, by decide⟩
      (.cons ⟨rfl, by decide, by decide, by decide⟩ .nil)
  obtain ⟨grown, hgrown, -, hle⟩ := (ofTokens_grows h).2.2 _ hgrows
  exact ⟨sequence, grown, h, hgrown, hle⟩

end Sequence

end TrickScore
