import Mathlib.Data.List.Basic
import TrickScore.Trick.Sequence

/-!
# Tricks without their sum

Scoring carries the sum of the scores along with the tricks. Which tricks there are, and where it
stops, does not depend on the sum: `Trick.resolve` hands on nothing but the last action. And the sum
is that of the tricks, which is an invariant of scoring (`Progress.Adds`), kept by every trick more.

Headlines:
* `Trick.resolve_append`: resolving goes on behind a beginning with the beginning's last action.
* `Progress.Adds.add`, `Progress.Adds.score`: the sum carried along is that of the tricks.
* `Progress.score_eq_resolve`: the tricks that are scored are those that are resolved.
* **`Sequence.ofTokens_eq_ok_iff`**: a sequence is scored exactly when no token of it is rejected.
-/

namespace TrickScore

/-! ## Resolving -/

namespace Trick

/-- The tricks of the tokens before the first that is rejected, and why it was. -/
def resolve (previous : Option Action) : List Token → List Trick × Option TrickError
  | [] => ([], none)
  | token :: tokens =>
    match ofToken previous token with
    | .error e => ([], some e)
    | .ok trick =>
      let (tricks, failure) := resolve (some trick.action) tokens
      (trick :: tricks, failure)

/-- The action right before whatever follows these tricks. -/
def lastAction (previous : Option Action) (tricks : List Trick) : Option Action :=
  (tricks.getLast?.map Trick.action).or previous

/-- **Resolving goes on behind a beginning with the beginning's last action**, unless it stopped
there. -/
theorem resolve_append (previous : Option Action) (first second : List Token) :
    resolve previous (first ++ second) =
      match resolve previous first with
      | (tricks, some e) => (tricks, some e)
      | (tricks, none) =>
        let (more, failure) := resolve (lastAction previous tricks) second
        (tricks ++ more, failure) := by
  induction first generalizing previous with
  | nil => simp [resolve, lastAction]
  | cons token first ih =>
    simp only [List.cons_append, resolve]
    cases ofToken previous token with
    | error e => rfl
    | ok trick =>
      simp only [ih]
      rcases resolve (some trick.action) first with ⟨tricks, _ | e⟩
      · cases tricks <;> simp [lastAction, List.getLast?_cons]
      · rfl

end Trick

/-! ## The sum -/

namespace Sequence

/-- The sum of the scores, from the left. -/
def total (tricks : List Trick) : Binary64 :=
  tricks.foldl (fun sum trick => sum + trick.score) Binary64.zero

/-- The sequence of given tricks. -/
def ofTricks (tricks : List Trick) : Sequence :=
  ⟨tricks, roundDifficulty (total tricks)⟩

end Sequence

namespace Progress

/-- What is carried along is what the tricks so far make of it. -/
structure Adds (progress : Progress) : Prop where
  total : progress.total = Sequence.total progress.tricks
  previous : progress.previous = Trick.lastAction none progress.tricks

theorem adds_start : start.Adds :=
  ⟨rfl, rfl⟩

/-- **A trick more keeps it so.** -/
theorem Adds.add {progress : Progress} (h : progress.Adds) (trick : Trick) :
    (progress.add trick).Adds where
  total := by rw [Progress.add, Sequence.total, List.foldl_append, h.total]; rfl
  previous := by simp [Progress.add, Trick.lastAction]

/-- **So do all tricks of a token list**, up to the first that is rejected. -/
theorem Adds.score {progress : Progress} (h : progress.Adds) (tokens : List Token) :
    (progress.score tokens).1.Adds := by
  induction tokens generalizing progress with
  | nil => exact h
  | cons token tokens ih =>
    rw [Progress.score]
    cases Trick.ofToken progress.previous token with
    | error e => exact h
    | ok trick => exact ih (h.add trick)

/-- **The tricks that are scored are those that are resolved**, and scoring stops where resolving
does. -/
theorem score_eq_resolve (progress : Progress) (tokens : List Token) :
    (progress.score tokens).1.tricks =
        progress.tricks ++ (Trick.resolve progress.previous tokens).1 ∧
      (progress.score tokens).2 = (Trick.resolve progress.previous tokens).2 := by
  induction tokens generalizing progress with
  | nil => exact ⟨(List.append_nil _).symm, rfl⟩
  | cons token tokens ih =>
    rw [score, Trick.resolve]
    cases Trick.ofToken progress.previous token with
    | error e => exact ⟨(List.append_nil _).symm, rfl⟩
    | ok trick =>
      obtain ⟨htricks, hfailure⟩ := ih (progress.add trick)
      refine ⟨?_, hfailure⟩
      rw [htricks, add, List.append_assoc]
      rfl

end Progress

/-! ## Sequences -/

namespace Sequence

/-- A token list is scored as it is resolved. -/
theorem ofTokens_eq (tokens : List Token) :
    ofTokens tokens =
      match Trick.resolve none tokens with
      | (tricks, none) => .ok (ofTricks tricks)
      | (_, some e) => .error e := by
  obtain ⟨htricks, hfailure⟩ := Progress.score_eq_resolve .start tokens
  have hadds := Progress.adds_start.score tokens
  rw [ofTokens]
  rcases hscore : Progress.start.score tokens with ⟨progress, failure⟩
  rcases hresolve : Trick.resolve none tokens with ⟨tricks, stopped⟩
  rw [hscore] at htricks hfailure hadds
  obtain rfl : progress.tricks = tricks := htricks.trans (congrArg Prod.fst hresolve)
  obtain rfl : failure = stopped := hfailure.trans (congrArg Prod.snd hresolve)
  cases failure with
  | none =>
    have htotal : progress.total = total progress.tricks := hadds.total
    simp only [ofTricks, htotal]
  | some e => rfl

/-- **A sequence is scored exactly when no token is rejected**, and then it holds the resolved
tricks. -/
theorem ofTokens_eq_ok_iff {tokens : List Token} {sequence : Sequence} :
    ofTokens tokens = .ok sequence ↔
      ∃ tricks, Trick.resolve none tokens = (tricks, none) ∧ sequence = ofTricks tricks := by
  rw [ofTokens_eq]
  rcases Trick.resolve none tokens with ⟨tricks, _ | e⟩
  · simp [eq_comm]
  · simp

end Sequence

end TrickScore
