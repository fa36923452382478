/-!
# Pieces between separators

A list is cut at every separator, so there is one piece more than there are separators. Joining the
pieces with the separator undoes it.

Headlines:
* `join_split`: the pieces make up the list again.
* `split_join`, `split_flatMap_ended`: pieces without a separator are found again.
* `split_eq_iff`: there is no other way to write a list as such pieces.
-/

namespace TrickScore.Text

variable {α : Type} [DecidableEq α]

/-- The pieces between the separators. -/
def split (separator : α) : List α → List (List α)
  | [] => [[]]
  | x :: xs =>
    if x = separator then [] :: split separator xs
    else (split separator xs).modifyHead (x :: ·)

/-- The pieces in order, with a separator between each two. -/
def join (separator : α) (pieces : List (List α)) : List α :=
  [separator].intercalate pieces

omit [DecidableEq α] in
theorem join_singleton (separator : α) (piece : List α) : join separator [piece] = piece := by
  simp [join, List.intercalate]

omit [DecidableEq α] in
theorem join_cons_cons (separator : α) (piece second : List α) (more : List (List α)) :
    join separator (piece :: second :: more) =
      piece ++ separator :: join separator (second :: more) := by
  simp [join, List.intercalate]

omit [DecidableEq α] in
/-- With one separator more in front, there is one before each piece. -/
theorem cons_join (separator : α) {pieces : List (List α)} (hne : pieces ≠ []) :
    separator :: join separator pieces = pieces.flatMap fun piece => separator :: piece := by
  induction pieces with
  | nil => exact absurd rfl hne
  | cons piece pieces ih =>
    cases pieces with
    | nil => simp [join_singleton]
    | cons second more =>
      rw [join_cons_cons, ih (List.cons_ne_nil second more)]
      rfl

omit [DecidableEq α] in
/-- What is joined holds what its pieces hold, and separators. -/
theorem of_mem_join {separator x : α} {pieces : List (List α)} (h : x ∈ join separator pieces) :
    x = separator ∨ ∃ piece ∈ pieces, x ∈ piece := by
  cases pieces with
  | nil => cases h
  | cons first more =>
    have hmem := List.mem_cons_of_mem separator h
    rw [cons_join separator (List.cons_ne_nil first more)] at hmem
    obtain ⟨piece, hpiece, hx⟩ := List.mem_flatMap.mp hmem
    exact (List.mem_cons.mp hx).imp_right fun hx => ⟨piece, hpiece, hx⟩

theorem split_ne_nil (separator : α) (xs : List α) : split separator xs ≠ [] := by
  cases xs with
  | nil => simp [split]
  | cons x xs =>
    simp only [split]
    split
    · simp
    · simpa using split_ne_nil separator xs

/-- There is one piece more than there are separators. -/
theorem length_split (separator : α) (xs : List α) :
    (split separator xs).length = xs.count separator + 1 := by
  induction xs with
  | nil => rfl
  | cons x xs ih =>
    by_cases h : x = separator <;> simp [split, h, ih]

/-- No piece holds a separator. -/
theorem not_mem_of_mem_split {separator : α} {xs piece : List α} (h : piece ∈ split separator xs) :
    separator ∉ piece := by
  induction xs generalizing piece with
  | nil =>
    rw [split, List.mem_singleton] at h
    subst h
    simp
  | cons x xs ih =>
    by_cases hx : x = separator
    · rw [split, if_pos hx, List.mem_cons] at h
      rcases h with rfl | h
      · simp
      · exact ih h
    · rw [split, if_neg hx] at h
      cases hs : split separator xs with
      | nil => exact absurd hs (split_ne_nil separator xs)
      | cons first more =>
        rw [hs] at h ih
        rw [List.modifyHead_cons, List.mem_cons] at h
        rcases h with rfl | h
        · simp [Ne.symm hx, ih List.mem_cons_self]
        · exact ih (List.mem_cons_of_mem _ h)

/-- **The pieces make up the list again.** -/
theorem join_split (separator : α) (xs : List α) : join separator (split separator xs) = xs := by
  induction xs with
  | nil => rfl
  | cons x xs ih =>
    cases hs : split separator xs with
    | nil => exact absurd hs (split_ne_nil separator xs)
    | cons first more =>
      rw [hs] at ih
      by_cases hx : x = separator
      · simp only [split, hx, if_pos, hs]
        simpa [join, List.intercalate, List.intersperse_cons_cons] using ih
      · simp only [split, hx, if_neg, hs, not_false_eq_true]
        cases more with
        | nil => simpa [join, List.intercalate] using ih
        | cons second more => simpa [join, List.intercalate] using ih

/-- A piece without a separator, and then the separator, is cut off in front. -/
theorem split_append_cons {separator : α} {piece : List α} (h : separator ∉ piece) (rest : List α) :
    split separator (piece ++ separator :: rest) = piece :: split separator rest := by
  induction piece with
  | nil => simp [split]
  | cons x piece ih =>
    simp only [List.mem_cons, not_or] at h
    simp [split, Ne.symm h.1, ih h.2]

/-- A list is cut at each of its separators on its own. -/
theorem split_append (separator : α) (xs ys : List α) :
    split separator (xs ++ separator :: ys) = split separator xs ++ split separator ys := by
  induction xs with
  | nil => simp [split]
  | cons x xs ih =>
    obtain ⟨first, more, hfirst⟩ := List.exists_cons_of_ne_nil (split_ne_nil separator xs)
    rw [hfirst] at ih
    by_cases hx : x = separator <;> simp [split, hx, ih, hfirst]

/-- A list without a separator is one piece. -/
theorem split_of_not_mem {separator : α} {piece : List α} (h : separator ∉ piece) :
    split separator piece = [piece] := by
  induction piece with
  | nil => rfl
  | cons x piece ih =>
    simp only [List.mem_cons, not_or] at h
    simp [split, Ne.symm h.1, ih h.2]

/-- **Pieces without a separator are found again.** -/
theorem split_join {separator : α} {pieces : List (List α)} (hne : pieces ≠ [])
    (h : ∀ piece ∈ pieces, separator ∉ piece) :
    split separator (join separator pieces) = pieces := by
  induction pieces with
  | nil => exact absurd rfl hne
  | cons piece pieces ih =>
    have hpiece := h piece List.mem_cons_self
    cases pieces with
    | nil =>
      rw [join_singleton]
      exact split_of_not_mem hpiece
    | cons second more =>
      have hrest := ih (by simp) fun p hp => h p (List.mem_cons_of_mem _ hp)
      rw [join_cons_cons, split_append_cons hpiece, hrest]

/-- **Pieces that each end with the separator are found again**, and nothing is left behind them. -/
theorem split_flatMap_ended {separator : α} {pieces : List (List α)}
    (h : ∀ piece ∈ pieces, separator ∉ piece) :
    split separator (pieces.flatMap fun piece => piece ++ [separator]) = pieces ++ [[]] := by
  -- By induction on the pieces: each is cut off at the separator behind it.
  induction pieces with
  | nil => rfl
  | cons piece pieces ih =>
    rw [List.flatMap_cons, List.append_assoc, List.singleton_append,
      split_append_cons (h piece List.mem_cons_self),
      ih fun p hp => h p (List.mem_cons_of_mem _ hp), List.cons_append]

/-- **The pieces of a list are the one way to write it** as pieces without a separator. -/
theorem split_eq_iff {separator : α} {xs : List α} {pieces : List (List α)} (hne : pieces ≠ []) :
    split separator xs = pieces ↔
      join separator pieces = xs ∧ ∀ piece ∈ pieces, separator ∉ piece := by
  constructor
  · rintro rfl
    exact ⟨join_split separator xs, fun piece hpiece => not_mem_of_mem_split hpiece⟩
  · rintro ⟨rfl, hpieces⟩
    exact split_join hne hpieces

end TrickScore.Text
