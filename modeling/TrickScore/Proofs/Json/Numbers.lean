import TrickScore.Proofs.Decimal.Value
import TrickScore.Text.Json

/-!
# Numbers as JSON numbers

JSON has a grammar for numbers, and no number of it is infinite or NaN. The grammar is stated here
by its parts: a sign, an integer part without leading zeros, and after it digits behind a point and
a power of ten, either of which may be left out.

Headline:
* `isNumber_number_iff`: exactly the finite numbers are written as JSON numbers.
-/

namespace TrickScore

namespace Json

open Decimal (IsRun isRun_digits isRun_padded)

/-- The parts of a JSON number. -/
structure NumberParts where
  negative : Bool
  whole : List Char
  fraction : Option (List Char)
  /-- The letter before the power of ten, its sign, and its digits. -/
  power : Option (Char × List Char × List Char)

namespace NumberParts

/-- The parts written one after the other. -/
def text (parts : NumberParts) : List Char :=
  (if parts.negative then ['-'] else []) ++ parts.whole ++
    parts.fraction.elim [] ('.' :: ·) ++
    parts.power.elim [] fun (letter, sign, run) => letter :: sign ++ run

/-- The parts are as the grammar has them. -/
structure WellFormed (parts : NumberParts) : Prop where
  whole : IsRun parts.whole
  noLeadingZero : parts.whole = ['0'] ∨ parts.whole.head? ≠ some '0'
  fraction : ∀ run ∈ parts.fraction, IsRun run
  power : ∀ letter sign run, parts.power = some (letter, sign, run) →
    letter ∈ ['e', 'E'] ∧ sign ∈ [[], ['+'], ['-']] ∧ IsRun run

end NumberParts

/-- The text is a JSON number. -/
def IsNumber (s : String) : Prop :=
  ∃ parts : NumberParts, parts.WellFormed ∧ s.toList = parts.text

/-- A JSON number starts with a digit or a minus. -/
theorem IsNumber.head {s : String} (h : IsNumber s) :
    ∃ c rest, s.toList = c :: rest ∧ (c = '-' ∨ c.isDigit = true) := by
  obtain ⟨⟨negative, whole, fraction, power⟩, hparts, htext⟩ := h
  rw [htext]
  cases negative with
  | true => exact ⟨'-', _, rfl, Or.inl rfl⟩
  | false =>
    cases whole with
    | nil => exact absurd rfl hparts.whole.nonempty
    | cons c run => exact ⟨c, _, rfl, Or.inr (hparts.whole.digits c List.mem_cons_self)⟩

theorem noLeadingZero_digits (n : Nat) :
    Decimal.digits n = ['0'] ∨ (Decimal.digits n).head? ≠ some '0' := by
  by_cases h : n = 0
  · subst h
    exact Or.inl (Nat.toDigits_zero 10)
  · exact Or.inr (Decimal.head?_digits h)

/-! ## The ways to write a magnitude -/

/-- Without an exponent, and with `.0` where there is no point yet. -/
theorem exists_parts_positional (negative : Bool) (d : Decimal.Scaled) :
    ∃ parts : NumberParts, parts.WellFormed ∧
      (if negative then ['-'] else []) ++
        (d.positional ++ if 0 ≤ d.exponent then ['.', '0'] else []) = parts.text := by
  by_cases hexponent : 0 ≤ d.exponent
  · refine ⟨⟨negative, Decimal.digits (d.coefficient * 10 ^ d.exponent.toNat), some ['0'], none⟩,
      ⟨isRun_digits _, noLeadingZero_digits _, ?_, by simp⟩, ?_⟩
    · intro run hrun
      obtain rfl := Option.some.inj hrun
      exact ⟨by simp, by simp⟩
    · simp [NumberParts.text, Decimal.Scaled.positional, hexponent]
  · have hplaces : d.exponent.natAbs ≠ 0 := by omega
    refine ⟨⟨negative, Decimal.digits (d.coefficient / 10 ^ d.exponent.natAbs),
      some (Decimal.padded d.exponent.natAbs (d.coefficient % 10 ^ d.exponent.natAbs)), none⟩,
      ⟨isRun_digits _, noLeadingZero_digits _, ?_, by simp⟩, ?_⟩
    · intro run hrun
      obtain rfl := Option.some.inj hrun
      exact isRun_padded _ _
    · simp [NumberParts.text, Decimal.Scaled.positional, Decimal.withPlaces, hexponent, hplaces]

/-- With one digit before the point and a power of ten. -/
theorem exists_parts_scientific (negative : Bool) (d : Decimal.Scaled) :
    ∃ parts : NumberParts, parts.WellFormed ∧
      (if negative then ['-'] else []) ++ d.scientific = parts.text := by
  let sign := if d.leading < 0 then '-' else '+'
  have hpower : ∀ letter sign' run,
      some ('e', [sign], Decimal.digits d.leading.natAbs) = some (letter, sign', run) →
        letter ∈ ['e', 'E'] ∧ sign' ∈ [[], ['+'], ['-']] ∧ IsRun run := by
    intro letter sign' run heq
    obtain ⟨rfl, rfl, rfl⟩ : 'e' = letter ∧ [sign] = sign' ∧ _ = run := by simpa using heq
    refine ⟨by simp, ?_, isRun_digits _⟩
    simp only [sign]
    split <;> simp
  -- A single digit is never a leading zero before others.
  have hfirst : ∀ digit : Char, [digit] = ['0'] ∨ [digit].head? ≠ some '0' := by
    intro digit
    by_cases h : digit = '0' <;> simp [h]
  have hdigits := (isRun_digits d.coefficient).digits
  cases hcoefficient : Decimal.digits d.coefficient with
  | nil => exact absurd hcoefficient Nat.toDigits_ne_nil
  | cons digit more =>
    rw [hcoefficient, List.forall_mem_cons] at hdigits
    have hone : IsRun [digit] := ⟨by simp, by simpa using hdigits.1⟩
    cases more with
    | nil =>
      refine ⟨⟨negative, [digit], none, some ('e', [sign], Decimal.digits d.leading.natAbs)⟩,
        ⟨hone, hfirst digit, by simp, hpower⟩, ?_⟩
      simp [NumberParts.text, Decimal.Scaled.scientific, hcoefficient, sign]
    | cons second rest =>
      refine ⟨⟨negative, [digit], some (second :: rest),
        some ('e', [sign], Decimal.digits d.leading.natAbs)⟩,
        ⟨hone, hfirst digit, ?_, hpower⟩, ?_⟩
      · intro run hrun
        obtain rfl := Option.some.inj hrun
        exact ⟨by simp, hdigits.2⟩
      · simp [NumberParts.text, Decimal.Scaled.scientific, hcoefficient, sign]

/-- **Exactly the finite numbers are written as JSON numbers.** -/
theorem isNumber_number_iff {x : Binary64} :
    IsNumber (number x) ↔ ∃ negative m, x = .finite negative m := by
  have hnull : ¬ IsNumber "null" := by
    intro h
    obtain ⟨c, rest, htext, hc⟩ := h.head
    obtain rfl : 'n' = c := (List.cons.inj htext).1
    revert hc
    decide
  cases x with
  | nan => exact iff_of_false hnull (by rintro ⟨_, _, h⟩; cases h)
  | infinite negative => exact iff_of_false hnull (by rintro ⟨_, _, h⟩; cases h)
  | finite negative m =>
    refine iff_of_true ?_ ⟨negative, m, rfl⟩
    rw [IsNumber, number, Decimal.NumberStyle.write, String.toList_ofList]
    by_cases hstyle :
        numberStyle.isPositional (Decimal.shortest numberStyle.tie m).leading = true
    · simp only [Decimal.NumberStyle.magnitude, if_pos hstyle]
      exact exists_parts_positional negative _
    · simp only [Decimal.NumberStyle.magnitude, if_neg hstyle]
      exact exists_parts_scientific negative _

end Json

end TrickScore
