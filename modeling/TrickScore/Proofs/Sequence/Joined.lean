import TrickScore.Proofs.Binary64.Order
import TrickScore.Proofs.Sequence.OutOfRange

/-!
# Signatures joined by a hyphen

A hyphen can stand in no lexeme, so the scan of two signatures with a hyphen between them is the
scan of the one and then of the other, with the errors of the first before those of the second. The
tricks are those of both parts. Only the first trick of the second part can tell that it no longer
stands at a beginning: it is resolved behind the last trick of the first part, and may earn a bonus
there. What follows it only knows of its letter, which has not changed.

Headlines:
* `Token.scan_joined_of_error`, `Token.scan_joined_of_ok`: scanning goes on behind a hyphen, unless
  it stopped before it.
* `Trick.resolve_of_resolve_none`: what comes before a token list changes its first trick only.
* **`Sequence.parse_joined`**: the sequence of two signatures with a hyphen between them.
-/

namespace TrickScore

/-! ## Scanning -/

/-- **The scan splits at a hyphen.** -/
theorem Lexeme.scan_joined (cs ds : List Char) : scan (cs ++ '-' :: ds) = scan cs ++ scan ds := by
  have hinner : ∀ c ∈ ('-' :: ds).head?, isInner c = false := by
    intro c hc
    obtain rfl : '-' = c := Option.some.inj hc
    decide
  rw [scan_append hinner, scan_cons, first?_cons_of_not_action (by decide)]
  rfl

theorem Token.scan_joined (a b : String) :
    scan (a ++ "-" ++ b) =
      (Lexeme.scan a.toList ++ Lexeme.scan b.toList).mapM ofLexeme := by
  have htext : (a ++ "-" ++ b).toList = a.toList ++ '-' :: b.toList := by simp
  rw [scan, htext, Lexeme.scan_joined]

/-- Scanning stops before a hyphen if it stops without it. -/
theorem Token.scan_joined_of_error {a : String} {e : TrickError} (h : scan a = .error e)
    (b : String) : scan (a ++ "-" ++ b) = .error e := by
  rw [scan_joined]
  exact Traversal.mapM_append_error h _

/-- **Scanning goes on behind a hyphen**, with what was found before it in front. -/
theorem Token.scan_joined_of_ok {a : String} {tokens : List Token} (h : scan a = .ok tokens)
    (b : String) : scan (a ++ "-" ++ b) = (scan b).map (tokens ++ ·) := by
  rw [scan_joined]
  exact Traversal.mapM_append_ok h _

/-! ## The trick behind the hyphen -/

/-- With a bonus the score without one is doubled or tripled. -/
theorem trickScore_some (count : UInt64) (modifier : Modifier) (bonus : Bonus) :
    trickScore count modifier (some bonus) =
      trickScore count modifier none * contextFactor (some bonus) := by
  have hnone : trickScore count modifier none =
      Binary64.ofNat count.toNat * modifier.multiplier := Binary64.mul_ofNat_one _
  rw [hnone, ← contextMultiplier_eq]
  rfl

namespace Trick

/-- A trick that earns a bonus it did not have. -/
def earning (bonus : Bonus) (trick : Trick) : Trick :=
  { trick with score := trick.score * contextFactor (some bonus), bonus := some bonus }

theorem earning_scored (action : Action) (count : UInt64) (modifier : Modifier) (bonus : Bonus) :
    (scored action count modifier none).earning bonus =
      scored action count modifier (some bonus) := by
  unfold scored
  rw [trickScore_some]
  rfl

/-- A trick is as it is where it earns nothing: without a bonus, and scored so. -/
structure Plain (trick : Trick) : Prop where
  bonus : trick.bonus = none
  score : trick.score = trickScore trick.count trick.modifier none

/-- A plain trick, once another action comes right before it. -/
def following (previous : Option Action) (trick : Trick) : Trick :=
  match Bonus.between? previous trick.action with
  | some bonus => trick.earning bonus
  | none => trick

@[simp] theorem following_action (previous : Option Action) (trick : Trick) :
    (trick.following previous).action = trick.action := by
  unfold following
  split <;> rfl

/-- Behind another action a trick is scored with the bonus that it earns there. -/
theorem following_scored (previous : Option Action) (action : Action) (count : UInt64)
    (modifier : Modifier) :
    (scored action count modifier none).following previous =
      scored action count modifier (Bonus.between? previous action) := by
  have haction : (scored action count modifier none).action = action := rfl
  unfold following
  rw [haction]
  cases Bonus.between? previous action with
  | none => rfl
  | some bonus => exact earning_scored action count modifier bonus

/-- **A token is resolved behind another trick as it is at a beginning**, but for what it earns. -/
theorem ofToken_of_ofToken_none {token : Token} {trick : Trick}
    (h : ofToken none token = .ok trick) :
    trick.Plain ∧ ∀ previous, ofToken previous token = .ok (trick.following previous) := by
  obtain ⟨action, modifier, ha, hm, rfl⟩ := ofToken_eq_ok_iff.mp h
  have hnone : Bonus.between? none action = none := rfl
  rw [hnone]
  refine ⟨⟨rfl, rfl⟩, fun previous => ofToken_eq_ok_iff.mpr ⟨action, modifier, ha, hm, ?_⟩⟩
  exact following_scored previous action token.count modifier

/-- **What comes before a token list changes its first trick only.** -/
theorem resolve_of_resolve_none {tokens : List Token} {tricks : List Trick}
    (h : resolve none tokens = (tricks, none)) :
    (∀ trick ∈ tricks.head?, trick.Plain) ∧
      ∀ previous, resolve previous tokens = (tricks.modifyHead (following previous), none) := by
  cases tokens with
  | nil =>
    obtain rfl : [] = tricks := congrArg Prod.fst h
    exact ⟨by simp, fun previous => rfl⟩
  | cons token tokens =>
    obtain ⟨trick, more, htoken, hmore, rfl⟩ := resolve_cons_eq_iff.mp h
    obtain ⟨hplain, hfollowing⟩ := ofToken_of_ofToken_none htoken
    refine ⟨fun first hfirst => ?_, fun previous => ?_⟩
    · obtain rfl : trick = first := Option.some.inj hfirst
      exact hplain
    · -- The trick hands on the same action, so what follows is resolved as before.
      refine resolve_cons_eq_iff.mpr ⟨_, more, hfollowing previous, ?_, rfl⟩
      rw [following_action]
      exact hmore

end Trick

/-! ## The joined sequence -/

namespace Sequence

/-- The bonus that the first of the second tricks earns behind the last of the first ones. -/
def seamBonus (first second : List Trick) : Option Bonus :=
  match first.getLast?, second.head? with
  | some last, some next => letterBonus (some last.action.symbol) next.action.symbol
  | _, _ => none

/-- **What two sequences are together**: the tricks of both as they are, but for the first trick of
the second, which gains the bonus that the letters at the seam stand for. -/
structure Joins (first second joined : Sequence) : Prop where
  plain : seamBonus first.tricks second.tricks = none →
    joined.tricks = first.tricks ++ second.tricks
  earned : ∀ bonus, seamBonus first.tricks second.tricks = some bonus →
    ∃ next more, second.tricks = next :: more ∧ next.bonus = none ∧
      (next.earning bonus).score = Binary64.ofNat next.count.toNat *
        letterWorth next.modifier.symbol * contextFactor (some bonus) ∧
      joined.tricks = first.tricks ++ next.earning bonus :: more
  bonusCount : joined.bonusCount = first.bonusCount + second.bonusCount +
    if (seamBonus first.tricks second.tricks).isSome then 1 else 0
  difficulty : joined.difficulty = roundDifficulty (total joined.tricks)

/-- Behind the first tricks, the first of the second ones earns the bonus of the seam. -/
theorem following_lastAction (first : List Trick) (next : Trick) (more : List Trick) :
    next.following (Trick.lastAction none first) =
      match seamBonus first (next :: more) with
      | some bonus => next.earning bonus
      | none => next := by
  unfold Trick.following Trick.lastAction seamBonus
  cases first.getLast? with
  | none => rfl
  | some last =>
    simp only [Option.map_some, Option.some_or, List.head?_cons, Bonus.between?_eq_letterBonus]

/-- Tricks put together join as sequences. -/
theorem joins_of_tricks {first second : List Trick} (hplain : ∀ next ∈ second.head?, next.Plain) :
    Joins (ofTricks first) (ofTricks second)
      (ofTricks (first ++ second.modifyHead (Trick.following (Trick.lastAction none first)))) := by
  cases second with
  | nil =>
    have hseam : seamBonus first [] = none := by
      unfold seamBonus
      cases first.getLast? <;> rfl
    refine ⟨fun _ => rfl, fun bonus h => ?_, ?_, rfl⟩
    · rw [show seamBonus (ofTricks first).tricks (ofTricks []).tricks = none from hseam] at h
      cases h
    · simp [bonusCount, ofTricks, hseam]
  | cons next more =>
    obtain ⟨hnone, hscore⟩ := hplain next rfl
    rw [List.modifyHead_cons, following_lastAction first next more]
    cases hseam : seamBonus first (next :: more) with
    | none =>
      refine ⟨fun _ => rfl, fun bonus h => ?_, ?_, rfl⟩
      · exact absurd (hseam.symm.trans h) (by simp)
      · simp [bonusCount, ofTricks, hseam]
    | some bonus =>
      refine ⟨fun h => ?_, fun other h => ?_, ?_, rfl⟩
      · exact absurd (hseam.symm.trans h) (by simp)
      · obtain rfl : bonus = other := Option.some.inj (hseam.symm.trans h)
        refine ⟨next, more, rfl, hnone, ?_, rfl⟩
        rw [Trick.earning, hscore, ← trickScore_some, ← Modifier.multiplier_eq,
          ← contextMultiplier_eq]
        rfl
      · simp only [bonusCount, ofTricks, List.countP_append, List.countP_cons, hseam, hnone,
          Trick.earning]
        simp
        omega

/-- Token lists that are scored are scored together, and join. -/
theorem exists_ofTokens_append {first second : List Token} {firstSeq secondSeq : Sequence}
    (hfirst : ofTokens first = .ok firstSeq) (hsecond : ofTokens second = .ok secondSeq) :
    ∃ joined, ofTokens (first ++ second) = .ok joined ∧ Joins firstSeq secondSeq joined := by
  obtain ⟨tricks, hresolve, rfl⟩ := ofTokens_eq_ok_iff.mp hfirst
  obtain ⟨more, hmore, rfl⟩ := ofTokens_eq_ok_iff.mp hsecond
  obtain ⟨hplain, hfollowing⟩ := Trick.resolve_of_resolve_none hmore
  refine ⟨_, ofTokens_eq_ok_iff.mpr ⟨_, ?_, rfl⟩, joins_of_tricks hplain⟩
  rw [Trick.resolve_append, hresolve]
  simp only [hfollowing]

/-- **Two signatures with a hyphen between them** are refused as the first is, else as the second
is. If both are scored, they are scored together: the tricks of the first, then those of the
second, of which the first alone may gain a bonus, by the letters at the seam. -/
theorem parse_joined (a b : String) :
    (∀ e, parse a = .error e → parse (a ++ "-" ++ b) = .error e) ∧
    (∀ first e, parse a = .ok first → parse b = .error e → parse (a ++ "-" ++ b) = .error e) ∧
    ∀ first second, parse a = .ok first → parse b = .ok second →
      ∃ joined, parse (a ++ "-" ++ b) = .ok joined ∧ Joins first second joined := by
  refine ⟨fun e ha => ?_, fun first e ha hb => ?_, fun first second ha hb => ?_⟩
  · rw [parse_eq_error_iff] at ha ⊢
    exact Token.scan_joined_of_error ha b
  · rw [parse_eq_error_iff] at hb ⊢
    obtain ⟨tokens, hscan, -⟩ := exists_scan_of_parse ha
    rw [Token.scan_joined_of_ok hscan, hb]
    rfl
  · obtain ⟨tokens, hscan, hfirst⟩ := exists_scan_of_parse ha
    obtain ⟨more, hmore, hsecond⟩ := exists_scan_of_parse hb
    have hjoined : Token.scan (a ++ "-" ++ b) = .ok (tokens ++ more) := by
      rw [Token.scan_joined_of_ok hscan, hmore]
      rfl
    rw [parse_of_scan_ok hjoined]
    exact exists_ofTokens_append hfirst hsecond

/-- A cash roll behind the hyphen earns its bonus from the 360 before it, and is worth six then. -/
theorem parse_joined_cashRoll :
    ∃ joined, parse "L4B-R3A" = .ok joined ∧ joined.bonusCount = 1 ∧
      ∃ first earned, joined.tricks = [first, earned] ∧ earned.score = Binary64.ofNat 6 := by
  have hscan : Token.scan "L4B" = .ok [⟨'L', 4, 'B'⟩] ∧ Token.scan "R3A" = .ok [⟨'R', 3, 'A'⟩] := by
    rw [Token.scan, Token.scan, Lexeme.scan_eq_filterMap, Lexeme.scan_eq_filterMap]
    exact ⟨rfl, rfl⟩
  have hfirst : parse "L4B" = .ok (ofTricks [.scored .threeSixty 4 .b none]) :=
    (parse_of_scan_ok hscan.1).trans (ofTokens_eq_ok_iff.mpr ⟨_, rfl, rfl⟩)
  have hsecond : parse "R3A" = .ok (ofTricks [.scored .cashRoll 3 .a none]) :=
    (parse_of_scan_ok hscan.2).trans (ofTokens_eq_ok_iff.mpr ⟨_, rfl, rfl⟩)
  obtain ⟨joined, hparse, hjoins⟩ := (parse_joined "L4B" "R3A").2.2 _ _ hfirst hsecond
  obtain ⟨next, more, hsplit, -, -, htricks⟩ := hjoins.earned .cashRollAfter360 rfl
  obtain ⟨rfl, rfl⟩ := List.cons.inj hsplit
  exact ⟨joined, hparse, hjoins.bonusCount, _, _, htricks, by decide +kernel⟩

end Sequence

end TrickScore
