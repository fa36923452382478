import Mathlib.Data.List.Forall2

/-!
# Traversals that may fail

`List.mapM` in `Except` runs over a list from the left and stops at the first failure.

Headlines:
* `mapM_eq_ok_iff`: it succeeds iff every element does, with one result for each.
* `mapM_eq_error_iff`: it fails iff some element does behind elements that do not, and then with
  that element's error; what follows plays no part.
-/

namespace TrickScore.Traversal

variable {α β ε : Type} {f : α → Except ε β}

theorem map_eq_ok_iff {g : β → α} {result : Except ε β} {x : α} :
    result.map g = .ok x ↔ ∃ y, result = .ok y ∧ g y = x := by
  cases result <;> simp [Except.map]

theorem mapError_eq_ok_iff {ε' : Type} {g : ε → ε'} {result : Except ε β} {y : β} :
    result.mapError g = .ok y ↔ result = .ok y := by
  cases result <;> simp [Except.mapError]

theorem mapM_cons_error {x : α} {xs : List α} {e : ε} (h : f x = .error e) :
    (x :: xs).mapM f = .error e := by
  rw [List.mapM_cons, h]
  rfl

theorem mapM_cons_ok {x : α} {xs : List α} {y : β} (h : f x = .ok y) :
    (x :: xs).mapM f = (xs.mapM f).map (y :: ·) := by
  rw [List.mapM_cons, h]
  rfl

theorem mapM_append_error {xs : List α} {e : ε} (h : xs.mapM f = .error e) (ys : List α) :
    (xs ++ ys).mapM f = .error e := by
  rw [List.mapM_append, h]
  rfl

theorem mapM_append_ok {xs : List α} {results : List β} (h : xs.mapM f = .ok results)
    (ys : List α) : (xs ++ ys).mapM f = (ys.mapM f).map (results ++ ·) := by
  rw [List.mapM_append, h]
  cases ys.mapM f <;> rfl

/-- **A traversal succeeds iff every element does**, with one result for each, in order. -/
theorem mapM_eq_ok_iff {xs : List α} {ys : List β} :
    xs.mapM f = .ok ys ↔ List.Forall₂ (fun x y => f x = .ok y) xs ys := by
  induction xs generalizing ys with
  | nil =>
    rw [List.mapM_nil, List.forall₂_nil_left_iff]
    exact ⟨fun h => (Except.ok.inj h).symm, fun h => h ▸ rfl⟩
  | cons x xs ih =>
    rw [List.forall₂_cons_left_iff]
    cases hx : f x with
    | error e =>
      rw [mapM_cons_error hx]
      simp
    | ok y =>
      rw [mapM_cons_ok hx]
      constructor
      · intro h
        cases hxs : xs.mapM f with
        | error e => simp [hxs, Except.map] at h
        | ok more =>
          rw [hxs] at h
          exact ⟨y, more, rfl, ih.mp hxs, (Except.ok.inj h).symm⟩
      · rintro ⟨z, more, hz, hmore, rfl⟩
        rw [ih.mpr hmore, Except.ok.inj hz]
        rfl

/-- **A traversal fails with the error of the first element that fails.** -/
theorem mapM_eq_error_iff {xs : List α} {e : ε} :
    xs.mapM f = .error e ↔
      ∃ before x after, xs = before ++ x :: after ∧ (∀ b ∈ before, ∃ y, f b = .ok y) ∧
        f x = .error e := by
  induction xs with
  | nil =>
    constructor
    · intro h
      cases h
    · rintro ⟨before, x, after, h, -⟩
      simp at h
  | cons x xs ih =>
    cases hx : f x with
    | error e' =>
      rw [mapM_cons_error hx]
      constructor
      · intro h
        exact ⟨[], x, xs, rfl, by simp, Except.error.inj h ▸ hx⟩
      · rintro ⟨_ | ⟨b, before⟩, z, after, h, hbefore, hz⟩
        · obtain ⟨rfl, -⟩ := List.cons.inj h
          rw [hx] at hz
          rw [Except.error.inj hz]
        · obtain ⟨rfl, -⟩ := List.cons.inj h
          obtain ⟨y, hy⟩ := hbefore x List.mem_cons_self
          rw [hx] at hy
          cases hy
    | ok y =>
      have hmap : (x :: xs).mapM f = .error e ↔ xs.mapM f = .error e := by
        rw [mapM_cons_ok hx]
        cases xs.mapM f <;> simp [Except.map]
      rw [hmap, ih]
      constructor
      · rintro ⟨before, z, after, rfl, hbefore, hz⟩
        refine ⟨x :: before, z, after, rfl, fun b hb => ?_, hz⟩
        rcases List.mem_cons.mp hb with rfl | hb
        · exact ⟨y, hx⟩
        · exact hbefore b hb
      · rintro ⟨_ | ⟨b, before⟩, z, after, h, hbefore, hz⟩
        · obtain ⟨rfl, -⟩ := List.cons.inj h
          rw [hx] at hz
          cases hz
        · obtain ⟨rfl, rfl⟩ := List.cons.inj h
          exact ⟨before, z, after, rfl, fun b hb => hbefore b (List.mem_cons_of_mem _ hb), hz⟩

end TrickScore.Traversal
