import TrickScore.Proofs.Sequence.OutOfRange

/-!
# Bonuses do not chain

A trick that earns a bonus is a cash roll or a barspin, and neither opens a bonus for the trick
behind it. So a bonus is never followed by another, and a sequence has no more of them than half its
tricks.

What makes a sequence of tricks what it is here is `Trick.Linked`: each trick has the bonus that its
action earns behind the action before. The bound on their number is found by an account. A 360 or a
table leaves one opening for the trick behind it (`Bonus.opening`). A trick with a bonus takes the
opening that it found and leaves none, and a trick without one leaves one at most.

Headlines:
* `Bonus.two_mul_add_opening_le`: what one trick does to the account.
* `Trick.Linked.two_mul_countP_le`: what a run of tricks does to it.
* `Trick.linked_resolve`: the tricks of a token list are linked.
* **`Sequence.bonuses_apart`**: where the bonuses of a sequence stand, and how many there are.
-/

namespace TrickScore

/-! ## One trick after another -/

namespace Bonus

/-- **Behind a trick with a bonus no trick earns one.** -/
theorem between?_eq_none_of_eq_some {previous : Option Action} {current : Action} {bonus : Bonus}
    (h : between? previous current = some bonus) (next : Action) :
    between? (some current) next = none := by
  obtain ⟨-, rfl⟩ := between?_eq_some_iff.mp h
  cases bonus <;> cases next <;> rfl

/-- How many bonuses an action leaves open for the trick behind it. -/
def opening (previous : Option Action) : Nat :=
  if previous ∈ [some .threeSixty, some .table] then 1 else 0

/-- **A trick with a bonus takes the opening before it and leaves none.** -/
theorem two_mul_add_opening_le (previous : Option Action) (current : Action) :
    2 * (between? previous current).isSome.toNat + opening (some current) ≤
      1 + opening previous := by
  rcases previous with _ | previous
  · cases current <;> decide
  · cases previous <;> cases current <;> decide

end Bonus

/-! ## Tricks in a row -/

namespace Trick

/-- Each trick has the bonus that its action earns behind the action before. -/
def Linked (previous : Option Action) : List Trick → Prop
  | [] => True
  | trick :: tricks =>
    trick.bonus = Bonus.between? previous trick.action ∧ Linked (some trick.action) tricks

/-- The tricks that are resolved are linked, also where a token behind them is rejected. -/
theorem linked_resolve (previous : Option Action) (tokens : List Token) :
    Linked previous (resolve previous tokens).1 := by
  induction tokens generalizing previous with
  | nil => exact trivial
  | cons token tokens ih =>
    unfold resolve
    cases h : ofToken previous token with
    | error e => exact trivial
    | ok trick =>
      obtain ⟨action, modifier, -, -, rfl⟩ := ofToken_eq_ok_iff.mp h
      exact ⟨rfl, ih (some action)⟩

/-- The action right before a position, where `previous` stands before the first. -/
def actionBefore (previous : Option Action) (tricks : List Trick) : Nat → Option Action
  | 0 => previous
  | i + 1 => tricks[i]?.map Trick.action

namespace Linked

variable {previous : Option Action} {tricks : List Trick}

/-- **The bonus at a position** is what the action there earns behind the action before. -/
theorem bonus_eq (h : Linked previous tricks) {i : Nat} {trick : Trick}
    (hi : tricks[i]? = some trick) :
    trick.bonus = Bonus.between? (actionBefore previous tricks i) trick.action := by
  induction tricks generalizing previous i with
  | nil => simp at hi
  | cons first tricks ih =>
    obtain ⟨hfirst, hrest⟩ := h
    cases i with
    | zero =>
      obtain rfl : first = trick := Option.some.inj hi
      exact hfirst
    | succ i =>
      rw [ih hrest hi]
      cases i <;> rfl

/-- **A bonus stands exactly where the letters before and here are those of its pair.** -/
theorem bonus_eq_some_iff (h : Linked none tricks) {i : Nat} {trick : Trick}
    (hi : tricks[i]? = some trick) {bonus : Bonus} :
    trick.bonus = some bonus ↔
      trick.action.symbol = bonus.earner.symbol ∧ ∃ k before, i = k + 1 ∧
        tricks[k]? = some before ∧ before.action.symbol = bonus.opener.symbol := by
  rw [h.bonus_eq hi, Bonus.between?_eq_letterBonus, letterBonus_eq_some_iff, and_comm]
  refine and_congr_right fun _ => ?_
  cases i with
  | zero => simp [actionBefore]
  | succ k => simp [actionBefore]

/-- **Of two tricks in a row one has no bonus.** -/
theorem bonus_eq_none_or (h : Linked previous tricks) {i : Nat} {trick next : Trick}
    (hi : tricks[i]? = some trick) (hnext : tricks[i + 1]? = some next) :
    trick.bonus = none ∨ next.bonus = none := by
  cases hbonus : trick.bonus with
  | none => exact .inl rfl
  | some bonus =>
    rw [h.bonus_eq hi] at hbonus
    refine .inr ?_
    rw [h.bonus_eq hnext, actionBefore, hi, Option.map_some]
    exact Bonus.between?_eq_none_of_eq_some hbonus next.action

/-- **A run of tricks has no more bonuses than half its tricks**, counting the opening that it
found. -/
theorem two_mul_countP_le (h : Linked previous tricks) :
    2 * tricks.countP (fun trick => trick.bonus.isSome) ≤
      tricks.length + Bonus.opening previous := by
  induction tricks generalizing previous with
  | nil => simp
  | cons trick tricks ih =>
    obtain ⟨hfirst, hrest⟩ := h
    have hmore := ih hrest
    have hstep := Bonus.two_mul_add_opening_le previous trick.action
    rw [← hfirst] at hstep
    rw [List.countP_cons, List.length_cons]
    cases hbonus : trick.bonus.isSome <;> simp [hbonus] at hstep ⊢ <;> omega

end Linked

end Trick

/-! ## Sequences -/

namespace Sequence

/-- How many neighbouring letters are one of the pairs that earn a bonus. -/
def earningPairs (letters : List Char) : Nat :=
  (letters.zip letters.tail).countP fun (before, letter) =>
    (letterBonus (some before) letter).isSome

/-- Behind an action, there are as many bonuses as pairs of letters that earn one. -/
theorem countP_bonus_eq {previous : Action} {tricks : List Trick}
    (h : Trick.Linked (some previous) tricks) :
    tricks.countP (fun trick => trick.bonus.isSome) =
      earningPairs (previous.symbol :: tricks.map fun trick => trick.action.symbol) := by
  induction tricks generalizing previous with
  | nil => rfl
  | cons trick tricks ih =>
    obtain ⟨hfirst, hrest⟩ := h
    have hpair : trick.bonus = letterBonus (some previous.symbol) trick.action.symbol :=
      hfirst.trans (Bonus.between?_eq_letterBonus (some previous) trick.action)
    rw [List.countP_cons, ih hrest, hpair]
    unfold earningPairs
    simp only [List.map_cons, List.tail_cons, List.zip_cons_cons, List.countP_cons]

/-- **There are as many bonuses as pairs of letters that earn one.** -/
theorem countP_bonus_eq_of_first {tricks : List Trick} (h : Trick.Linked none tricks) :
    tricks.countP (fun trick => trick.bonus.isSome) =
      earningPairs (tricks.map fun trick => trick.action.symbol) := by
  cases tricks with
  | nil => rfl
  | cons trick tricks =>
    have hnone : trick.bonus = none := h.1
    rw [List.countP_cons, countP_bonus_eq h.2, hnone]
    rfl

/-- **Where the bonuses of a sequence stand, and how many there are.** -/
structure BonusesApart (sequence : Sequence) : Prop where
  /-- The first trick has none. -/
  first : ∀ trick ∈ sequence.tricks.head?, trick.bonus = none
  /-- Of two tricks in a row one has none. -/
  apart : ∀ i trick next, sequence.tricks[i]? = some trick → sequence.tricks[i + 1]? = some next →
    trick.bonus = none ∨ next.bonus = none
  /-- This one stands on an `R` that follows an `L` directly, and nowhere else. -/
  cashRoll : ∀ i trick, sequence.tricks[i]? = some trick →
    (trick.bonus = some .cashRollAfter360 ↔
      trick.action.symbol = 'R' ∧ ∃ k before, i = k + 1 ∧
        sequence.tricks[k]? = some before ∧ before.action.symbol = 'L')
  /-- This one stands on an `S` that follows a `T` directly, and nowhere else. -/
  barspin : ∀ i trick, sequence.tricks[i]? = some trick →
    (trick.bonus = some .barspinAfterTable ↔
      trick.action.symbol = 'S' ∧ ∃ k before, i = k + 1 ∧
        sequence.tricks[k]? = some before ∧ before.action.symbol = 'T')
  /-- They are counted by the letters alone. -/
  count : sequence.bonusCount =
    earningPairs (sequence.tricks.map fun trick => trick.action.symbol)
  /-- At most every other trick has one. -/
  bound : 2 * sequence.bonusCount ≤ sequence.length

theorem bonusesApart_of_linked {tricks : List Trick} (h : Trick.Linked none tricks) :
    BonusesApart (ofTricks tricks) := by
  refine ⟨fun trick htrick => ?_, fun i trick next => h.bonus_eq_none_or,
    fun i trick hi => h.bonus_eq_some_iff hi, fun i trick hi => h.bonus_eq_some_iff hi,
    countP_bonus_eq_of_first h, h.two_mul_countP_le⟩
  rw [List.head?_eq_getElem?] at htrick
  exact h.bonus_eq htrick

theorem bonusesApart_of_ofTokens {tokens : List Token} {sequence : Sequence}
    (h : ofTokens tokens = .ok sequence) : BonusesApart sequence := by
  obtain ⟨tricks, hresolve, rfl⟩ := ofTokens_eq_ok_iff.mp h
  have hlinked := Trick.linked_resolve none tokens
  rw [hresolve] at hlinked
  exact bonusesApart_of_linked hlinked

/-- **Bonuses do not chain**, in a sequence that is scored from tokens or from a signature. The
first trick has none and of two tricks in a row one has none. Each stands on its own pair of
neighbouring letters, so they are as many as such pairs, and no more than half the tricks. -/
theorem bonuses_apart :
    (∀ tokens sequence, ofTokens tokens = .ok sequence → BonusesApart sequence) ∧
    ∀ signature sequence, parse signature = .ok sequence → BonusesApart sequence := by
  refine ⟨fun tokens sequence h => bonusesApart_of_ofTokens h, fun signature sequence h => ?_⟩
  obtain ⟨tokens, -, htokens⟩ := exists_scan_of_parse h
  exact bonusesApart_of_ofTokens htokens

/-- Every other trick has a bonus: four tricks have no more. -/
theorem bonuses_apart_everyOther :
    ∃ sequence,
      ofTokens [⟨'L', 1, 'A'⟩, ⟨'R', 2, 'B'⟩, ⟨'T', 3, 'C'⟩, ⟨'S', 4, 'D'⟩] = .ok sequence ∧
      parse "L1A-R2B, T3CxS4D" = .ok sequence ∧ sequence.length = 4 ∧ sequence.bonusCount = 2 ∧
      2 * sequence.bonusCount ≤ sequence.length := by
  have hscan : Token.scan "L1A-R2B, T3CxS4D" =
      .ok [⟨'L', 1, 'A'⟩, ⟨'R', 2, 'B'⟩, ⟨'T', 3, 'C'⟩, ⟨'S', 4, 'D'⟩] := by
    rw [Token.scan, Lexeme.scan_eq_filterMap]
    rfl
  obtain ⟨sequence, hparse⟩ := exists_parse_of_scan_ok hscan
  have htokens := (parse_of_scan_ok hscan).symm.trans hparse
  have hletters : sequence.tricks.map (fun trick => trick.action.symbol) =
      ['L', 'R', 'T', 'S'] := by
    cases htokens
    rfl
  refine ⟨sequence, htokens, hparse, ?_, ?_, (bonuses_apart.1 _ _ htokens).bound⟩
  · rw [length, ← List.length_map (fun trick : Trick => trick.action.symbol), hletters]
    rfl
  · rw [(bonuses_apart.2 _ _ hparse).count, hletters]
    rfl

end Sequence

end TrickScore
