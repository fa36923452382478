import TrickScore.Proofs.Sequence.Resolve
import TrickScore.Proofs.Token.Scan

/-!
# Sequences without a state

`Trick.resolve` hands the action of each trick on to the next and stops at the first token that is
rejected. Here both are said of the token list alone: why a token is rejected depends on that token
only, and what its trick is depends on the token and the letter right before it.

The induction is on the tokens, for every action that may come before them, so that the action
handed on is always the one whose letter stands right before.

Headlines:
* `Sequence.ofTokens_eq_error_iff`: the error is that of the first token with a wrong letter.
* `Trick.isAt_of_resolve`: each trick is what its own token and the letter before make of it.
* **`Sequence.ofTokens_pointwise`**: both together, with the difficulty as one rounded sum.
-/

namespace TrickScore

/-! ## Rejected tokens -/

namespace Token

/-- Both letters of the token are letters of the grammar. -/
structure Lettered (token : Token) : Prop where
  action : token.action ∈ ['L', 'H', 'R', 'S', 'T']
  modifier : token.modifier ∈ ['A', 'B', 'C', 'D', 'E']

instance (token : Token) : Decidable token.Lettered :=
  decidable_of_iff
    (token.action ∈ ['L', 'H', 'R', 'S', 'T'] ∧ token.modifier ∈ ['A', 'B', 'C', 'D', 'E'])
    ⟨fun h => ⟨h.1, h.2⟩, fun h => ⟨h.action, h.modifier⟩⟩

/-- Why a token is rejected, if it is. A wrong action letter counts before a wrong modifier
letter. -/
def fault? (token : Token) : Option TrickError :=
  if token.action ∉ ['L', 'H', 'R', 'S', 'T'] then
    some (.unrecognizedSymbol .action token.action)
  else if token.modifier ∉ ['A', 'B', 'C', 'D', 'E'] then
    some (.unrecognizedSymbol .modifier token.modifier)
  else
    none

theorem fault?_eq_none_iff {token : Token} : token.fault? = none ↔ token.Lettered := by
  unfold fault?
  split
  · rename_i h
    constructor
    · intro hn
      cases hn
    · intro hl
      exact absurd hl.action h
  · rename_i ha
    split
    · rename_i hm
      constructor
      · intro hn
        cases hn
      · intro hl
        exact absurd hl.modifier hm
    · rename_i hm
      exact ⟨fun _ => ⟨Decidable.not_not.mp ha, Decidable.not_not.mp hm⟩, fun _ => rfl⟩

end Token

/-! ## One trick -/

/-- The name of the trick that an action letter stands for. -/
def letterName : Char → String
  | 'L' => "360"
  | 'H' => "Tuck No-Hander"
  | 'R' => "Cash Roll"
  | 'S' => "Barspin"
  | 'T' => "Table"
  | _ => ""

/-- What one repetition is worth under a modifier letter. -/
def letterWorth : Char → Binary64
  | 'A' => .ofNat 1
  | 'B' => .ofFraction 12 10
  | 'C' => .ofFraction 14 10
  | 'D' => .ofFraction 16 10
  | 'E' => .ofFraction 18 10
  | _ => .zero

/-- **The bonus that stands on a letter**, by the letter right before it. Two pairs have one. -/
def letterBonus : Option Char → Char → Option Bonus
  | some 'L', 'R' => some .cashRollAfter360
  | some 'T', 'S' => some .barspinAfterTable
  | _, _ => none

/-- How often a trick with or without a bonus counts. -/
def timesCounted : Option Bonus → Nat
  | some .cashRollAfter360 => 2
  | some .barspinAfterTable => 3
  | none => 1

/-- What the score of a trick with or without a bonus is multiplied by. -/
def contextFactor (bonus : Option Bonus) : Binary64 :=
  .ofNat (timesCounted bonus)

theorem Action.name_eq (action : Action) : action.name = letterName action.symbol := by
  cases action <;> rfl

theorem Modifier.multiplier_eq (modifier : Modifier) :
    modifier.multiplier = letterWorth modifier.symbol := by
  cases modifier <;> rfl

theorem contextMultiplier_eq (bonus : Option Bonus) :
    contextMultiplier bonus = contextFactor bonus := by
  rcases bonus with _ | _ | _ <;> rfl

/-- **A bonus is that of the letters.** -/
theorem Bonus.between?_eq_letterBonus (previous : Option Action) (current : Action) :
    between? previous current = letterBonus (previous.map Action.symbol) current.symbol := by
  rcases previous with _ | previous
  · cases current <;> rfl
  · cases previous <;> cases current <;> rfl

/-- A bonus stands on the letters of its own pair. -/
theorem letterBonus_eq_some_iff {before : Option Char} {letter : Char} {bonus : Bonus} :
    letterBonus before letter = some bonus ↔
      before = some bonus.opener.symbol ∧ letter = bonus.earner.symbol := by
  unfold letterBonus
  split
  · cases bonus <;> decide
  · cases bonus <;> decide
  · rename_i hcashRoll hbarspin
    constructor
    · intro h
      cases h
    · rintro ⟨rfl, rfl⟩
      cases bonus with
      | cashRollAfter360 => exact absurd rfl (hcashRoll rfl)
      | barspinAfterTable => exact absurd rfl (hbarspin rfl)

namespace Trick

/-- **What a trick is by its token and the letter right before it**, if there is one. -/
structure IsAt (trick : Trick) (before : Option Char) (token : Token) : Prop where
  letter : trick.action.symbol = token.action
  name : trick.name = letterName token.action
  count : trick.count = token.count
  modifier : trick.modifier.symbol = token.modifier
  bonus : trick.bonus = letterBonus before token.action
  score : trick.score =
    Binary64.ofNat token.count.toNat * letterWorth token.modifier * contextFactor trick.bonus

theorem ofToken_eq_ok_iff {previous : Option Action} {token : Token} {trick : Trick} :
    ofToken previous token = .ok trick ↔
      ∃ action modifier, token.action = Action.symbol action ∧
        token.modifier = Modifier.symbol modifier ∧
        trick = scored action token.count modifier (Bonus.between? previous action) := by
  unfold ofToken Action.read Modifier.read
  constructor
  · intro h
    cases ha : Action.alphabet.read token.action with
    | error e => rw [ha] at h; cases h
    | ok action =>
      cases hm : Modifier.alphabet.read token.modifier with
      | error e => rw [ha, hm] at h; cases h
      | ok modifier =>
        rw [ha, hm] at h
        exact ⟨action, modifier, Alphabet.read_eq_ok_iff.mp ha, Alphabet.read_eq_ok_iff.mp hm,
          (Except.ok.inj h).symm⟩
  · rintro ⟨action, modifier, ha, hm, rfl⟩
    rw [(@Alphabet.read_eq_ok_iff _ Action.alphabet _ _).mpr ha,
      (@Alphabet.read_eq_ok_iff _ Modifier.alphabet _ _).mpr hm]
    rfl

/-- A token is rejected for its own letters, whatever comes before it. -/
theorem ofToken_eq_error_iff {previous : Option Action} {token : Token} {e : TrickError} :
    ofToken previous token = .error e ↔ token.fault? = some e := by
  unfold ofToken Action.read Modifier.read Token.fault?
  split
  · rename_i ha
    rw [@Alphabet.read_of_not_mem _ Action.alphabet _ ha]
    exact ⟨fun h => congrArg some (Except.error.inj h), fun h => congrArg _ (Option.some.inj h)⟩
  · rename_i ha
    obtain ⟨action, hact⟩ :=
      @Alphabet.exists_symbol_of_mem _ Action.alphabet _ (Decidable.not_not.mp ha)
    rw [Alphabet.read_eq_ok_iff.mpr hact]
    split
    · rename_i hm
      rw [@Alphabet.read_of_not_mem _ Modifier.alphabet _ hm]
      exact ⟨fun h => congrArg some (Except.error.inj h), fun h => congrArg _ (Option.some.inj h)⟩
    · rename_i hm
      obtain ⟨modifier, hmod⟩ :=
        @Alphabet.exists_symbol_of_mem _ Modifier.alphabet _ (Decidable.not_not.mp hm)
      rw [Alphabet.read_eq_ok_iff.mpr hmod]
      constructor
      · intro h
        cases h
      · intro h
        cases h

/-- **What is resolved is what the token and the letter before make of it.** -/
theorem isAt_of_ofToken {previous : Option Action} {token : Token} {trick : Trick}
    (h : ofToken previous token = .ok trick) :
    trick.IsAt (previous.map Action.symbol) token := by
  obtain ⟨action, modifier, ha, hm, rfl⟩ := ofToken_eq_ok_iff.mp h
  refine ⟨ha.symm, ?_, rfl, hm.symm, ?_, ?_⟩
  · rw [ha]
    exact action.name_eq
  · rw [ha]
    exact Bonus.between?_eq_letterBonus previous action
  · rw [hm, ← Modifier.multiplier_eq, ← contextMultiplier_eq]
    rfl

/-! ## All tricks -/

/-- The letter right before a position, where `start` stands before the first. -/
def letterBefore (start : Option Char) (tokens : List Token) : Nat → Option Char
  | 0 => start
  | i + 1 => tokens[i]?.map Token.action

/-- Behind the first token, the letter before is that of the first token or one further on. -/
theorem letterBefore_cons (start : Option Char) (token : Token) (tokens : List Token) (i : Nat) :
    letterBefore start (token :: tokens) (i + 1) = letterBefore (some token.action) tokens i := by
  cases i <;> rfl

/-- **Resolving stops at the first token that is rejected for its letters.** -/
theorem resolve_snd (previous : Option Action) (tokens : List Token) :
    (resolve previous tokens).2 = tokens.findSome? Token.fault? := by
  induction tokens generalizing previous with
  | nil => rfl
  | cons token tokens ih =>
    rw [resolve, List.findSome?_cons]
    cases h : ofToken previous token with
    | error e => rw [ofToken_eq_error_iff.mp h]
    | ok trick =>
      have hnone : token.fault? = none := by
        rw [Option.eq_none_iff_forall_ne_some]
        intro e he
        rw [ofToken_eq_error_iff.mpr he] at h
        cases h
      rw [hnone]
      exact ih (some trick.action)

/-- Tokens are resolved one by one, each after the action of the trick before. -/
theorem resolve_cons_eq_iff {previous : Option Action} {token : Token} {tokens : List Token}
    {tricks : List Trick} :
    resolve previous (token :: tokens) = (tricks, none) ↔
      ∃ trick more, ofToken previous token = .ok trick ∧
        resolve (some trick.action) tokens = (more, none) ∧ tricks = trick :: more := by
  rw [resolve]
  cases ofToken previous token with
  | error e => simp
  | ok trick =>
    rcases hrest : resolve (some trick.action) tokens with ⟨more, failure⟩
    simp [hrest, and_comm, eq_comm]

/-- **Each trick is what its own token and the letter before make of it**, where no token is
rejected. -/
theorem isAt_of_resolve {previous : Option Action} {tokens : List Token} {tricks : List Trick}
    (h : resolve previous tokens = (tricks, none)) :
    tricks.length = tokens.length ∧
      ∀ i (hi : i < tokens.length) (hi' : i < tricks.length),
        tricks[i].IsAt (letterBefore (previous.map Action.symbol) tokens i) tokens[i] := by
  induction tokens generalizing previous tricks with
  | nil =>
    obtain rfl := (congrArg Prod.fst h).symm
    exact ⟨rfl, fun i hi => absurd hi (Nat.not_lt_zero i)⟩
  | cons token tokens ih =>
    obtain ⟨trick, more, htoken, hmore, rfl⟩ := resolve_cons_eq_iff.mp h
    obtain ⟨hlength, hrest⟩ := ih hmore
    have hfirst := isAt_of_ofToken htoken
    refine ⟨congrArg (· + 1) hlength, fun i hi hi' => ?_⟩
    cases i with
    | zero => exact hfirst
    | succ i =>
      have hnext := hrest i (Nat.lt_of_succ_lt_succ hi) (Nat.lt_of_succ_lt_succ hi')
      rw [letterBefore_cons, ← hfirst.letter]
      exact hnext

end Trick

/-! ## Sequences -/

namespace Sequence

/-- **The error of a token list is that of its first token with a wrong letter**, whatever follows
it. -/
theorem ofTokens_eq_error_iff {tokens : List Token} {e : TrickError} :
    ofTokens tokens = .error e ↔
      ∃ before token after, tokens = before ++ token :: after ∧
        (∀ t ∈ before, t.Lettered) ∧ token.fault? = some e := by
  have hfault : ofTokens tokens = .error e ↔ tokens.findSome? Token.fault? = some e := by
    rw [← Trick.resolve_snd none, ofTokens_eq]
    rcases Trick.resolve none tokens with ⟨tricks, _ | fault⟩ <;> simp
  rw [hfault, List.findSome?_eq_some_iff]
  simp only [Token.fault?_eq_none_iff]
  constructor
  · rintro ⟨before, token, after, heq, htoken, hbefore⟩
    exact ⟨before, token, after, heq, hbefore, htoken⟩
  · rintro ⟨before, token, after, heq, hbefore, htoken⟩
    exact ⟨before, token, after, heq, htoken, hbefore⟩

/-- A token list is scored iff all its letters are letters of the grammar. -/
theorem exists_ofTokens_iff {tokens : List Token} :
    (∃ sequence, ofTokens tokens = .ok sequence) ↔ ∀ token ∈ tokens, token.Lettered := by
  have hnone := Trick.resolve_snd none tokens
  simp only [ofTokens_eq_ok_iff, ← Token.fault?_eq_none_iff]
  rw [← List.findSome?_eq_none_iff, ← hnone]
  constructor
  · rintro ⟨sequence, tricks, h, -⟩
    rw [h]
  · intro h
    exact ⟨_, _, Prod.ext rfl h, rfl⟩

/-- **Scoring needs no state.** A token list is scored iff all its letters are letters of the
grammar; otherwise its error is that of the first token with a wrong one. Each trick is what its
own token and the letter right before make of it. The difficulty is the sum of the scores from the
left, rounded once. -/
theorem ofTokens_pointwise (tokens : List Token) :
    ((∃ sequence, ofTokens tokens = .ok sequence) ↔ ∀ token ∈ tokens, token.Lettered) ∧
    (∀ e, ofTokens tokens = .error e ↔
      ∃ before token after, tokens = before ++ token :: after ∧
        (∀ t ∈ before, t.Lettered) ∧ token.fault? = some e) ∧
    ∀ sequence, ofTokens tokens = .ok sequence →
      sequence.tricks.length = tokens.length ∧
      (∀ i (hi : i < tokens.length) (hi' : i < sequence.tricks.length),
        sequence.tricks[i].IsAt (Trick.letterBefore none tokens i) tokens[i]) ∧
      sequence.difficulty =
        roundDifficulty (sequence.scores.foldl (fun sum score => sum + score) Binary64.zero) := by
  refine ⟨exists_ofTokens_iff, fun e => ofTokens_eq_error_iff, fun sequence h => ?_⟩
  obtain ⟨tricks, hresolve, rfl⟩ := ofTokens_eq_ok_iff.mp h
  obtain ⟨hlength, htricks⟩ := Trick.isAt_of_resolve hresolve
  refine ⟨hlength, htricks, ?_⟩
  rw [scores, List.foldl_map]
  rfl

/-- A cash roll after a 360 is scored, with its bonus. -/
theorem ofTokens_pointwise_cashRoll :
    ∃ sequence, ofTokens [⟨'L', 4, 'B'⟩, ⟨'R', 3, 'A'⟩] = .ok sequence ∧
      ∃ h : 1 < sequence.tricks.length,
        sequence.tricks[1].bonus = some .cashRollAfter360 := by
  obtain ⟨hscored, -, htricks⟩ := ofTokens_pointwise [⟨'L', 4, 'B'⟩, ⟨'R', 3, 'A'⟩]
  obtain ⟨sequence, h⟩ := hscored.mpr (by decide)
  obtain ⟨hlength, hat, -⟩ := htricks sequence h
  have hone : 1 < sequence.tricks.length := hlength ▸ Nat.lt_succ_self 1
  exact ⟨sequence, h, hone, (hat 1 (Nat.lt_succ_self 1) hone).bonus⟩

end Sequence

end TrickScore
