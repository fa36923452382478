import TrickScore.Decimal.Places
import TrickScore.Text.Split

/-!
# What a decimal text denotes

A decimal text is one digit or more, with or without a point and more digits behind it. It denotes a
rational number: all its digits together, divided by as many tens as there are digits behind the
point. So texts with different counts of places may denote the same number.

Headlines:
* `value?_withPlaces`: a number at fixed places denotes itself over a power of ten.
* `value?_append_pointZero`: a point and a zero behind a natural number add nothing.
* `head?_digits`: no number but zero is written with a leading zero.
-/

namespace TrickScore.Decimal

/-! ## Runs of digits -/

/-- One digit or more. -/
structure IsRun (run : List Char) : Prop where
  nonempty : run ≠ []
  digits : ∀ c ∈ run, c.isDigit = true

instance (run : List Char) : Decidable (IsRun run) :=
  haveI := List.decidableBAll (fun c : Char => c.isDigit = true) run
  decidable_of_iff (run ≠ [] ∧ ∀ c ∈ run, c.isDigit = true)
    ⟨fun h => ⟨h.1, h.2⟩, fun h => ⟨h.nonempty, h.digits⟩⟩

theorem isRun_digits (n : Nat) : IsRun (digits n) :=
  ⟨Nat.toDigits_ne_nil, fun _ hc => isDigit_of_mem_digits hc⟩

theorem isRun_padded (width n : Nat) : IsRun (padded width n) :=
  ⟨padded_ne_nil width n, fun _ hc => isDigit_of_mem_padded hc⟩

theorem IsRun.point_not_mem {run : List Char} (h : IsRun run) : '.' ∉ run :=
  fun hmem => absurd (h.digits '.' hmem) (by decide)

/-- **No number but zero is written with a leading zero**: without it the number would have one
digit less. -/
theorem head?_digits {n : Nat} (h : n ≠ 0) : (digits n).head? ≠ some '0' := by
  intro hzero
  cases hdigits : digits n with
  | nil => exact Nat.toDigits_ne_nil hdigits
  | cons c run =>
    rw [hdigits, List.head?_cons] at hzero
    obtain rfl := Option.some.inj hzero
    have hrun : ∀ c ∈ run, c.isDigit = true := fun c hc =>
      isDigit_of_mem_digits (n := n) (hdigits ▸ List.mem_cons_of_mem _ hc)
    have hn : n < 10 ^ run.length := by
      have hvalue := ofDigits_digits n
      rw [hdigits, ofDigits_cons, Nat.sub_self, Nat.mul_zero, Nat.zero_add] at hvalue
      rw [← hvalue]
      exact ofDigits_lt hrun
    rcases Nat.eq_zero_or_pos run.length with hlength | hlength
    · rw [hlength] at hn
      omega
    · have hshort := (Nat.length_toDigits_le_iff (by decide) hlength).mpr hn
      rw [show Nat.toDigits 10 n = '0' :: run from hdigits, List.length_cons] at hshort
      omega

/-- Digits in front count as often as the digits behind them make up a power of ten. -/
theorem ofDigits_append (run more : List Char) :
    ofDigits (run ++ more) = 10 ^ more.length * ofDigits run + ofDigits more := by
  rw [ofDigits, Nat.ofDigitChars_append, Nat.ofDigitChars_eq_ofDigitChars_zero, ofDigits, ofDigits]

/-! ## Values -/

/-- The number that a decimal text denotes. -/
def value? (text : List Char) : Option Rat :=
  match Text.split '.' text with
  | [whole] => if IsRun whole then some (mkRat (ofDigits whole) 1) else none
  | [whole, places] =>
    if IsRun whole ∧ IsRun places then
      some (mkRat (ofDigits (whole ++ places)) (10 ^ places.length))
    else
      none
  | _ => none

/-- Fractions are compared crosswise. -/
theorem mkRat_eq_mkRat_iff {n den n' den' : Nat} (hden : 0 < den) (hden' : 0 < den') :
    mkRat n den = mkRat n' den' ↔ n * den' = n' * den := by
  rw [Rat.mkRat_eq_iff (Nat.ne_of_gt hden) (Nat.ne_of_gt hden')]
  exact Int.ofNat_inj

/-- A fraction that is an integer has a numerator that the denominator divides. -/
theorem dvd_of_isInt {n den : Nat} (hden : 0 < den) (h : (mkRat n den).isInt = true) : den ∣ n := by
  have hone : (mkRat n den).den = 1 := eq_of_beq h
  have hself := Rat.mkRat_self (mkRat n den)
  rw [hone, Rat.mkRat_eq_iff (by decide) (Nat.ne_of_gt hden)] at hself
  refine Int.natCast_dvd_natCast.mp ⟨(mkRat n den).num, ?_⟩
  rw [Int.mul_comm, hself, Int.natCast_one, Int.mul_one]

theorem value?_point {whole places : List Char} (hwhole : IsRun whole) (hplaces : IsRun places) :
    value? (whole ++ '.' :: places) =
      some (mkRat (ofDigits (whole ++ places)) (10 ^ places.length)) := by
  rw [value?, Text.split_append_cons hwhole.point_not_mem,
    Text.split_of_not_mem hplaces.point_not_mem]
  exact if_pos ⟨hwhole, hplaces⟩

/-- A number at fixed places is digits and a point, and nothing else. -/
theorem isDigit_or_point_of_mem_withPlaces {n places : Nat} {c : Char}
    (h : c ∈ withPlaces n places) : c.isDigit = true ∨ c = '.' := by
  unfold withPlaces at h
  split at h
  · exact .inl (isDigit_of_mem_digits h)
  · rcases List.mem_append.mp h with hwhole | hrest
    · exact .inl (isDigit_of_mem_digits hwhole)
    · rcases List.mem_cons.mp hrest with rfl | hplaces
      · exact .inr rfl
      · exact .inl (isDigit_of_mem_padded hplaces)

/-- **A number at fixed places denotes itself over a power of ten.** -/
theorem value?_withPlaces (n : Nat) {places : Nat} (h : 0 < places) :
    value? (withPlaces n places) = some (mkRat n (10 ^ places)) := by
  have hten : 0 < 10 ^ places := Nat.pow_pos (by decide)
  have hlength := length_padded h (Nat.mod_lt n hten)
  rw [withPlaces, if_neg (Nat.ne_of_gt h), value?_point (isRun_digits _) (isRun_padded _ _),
    ofDigits_append, hlength, ofDigits_digits, ofDigits_padded, Nat.div_add_mod]

/-- **A point and a zero behind a natural number add nothing.** -/
theorem value?_append_pointZero (n : Nat) :
    value? (digits n ++ ['.', '0']) = some (mkRat n 1) := by
  have hzero : IsRun ['0'] := ⟨by simp, by simp⟩
  rw [value?_point (isRun_digits n) hzero, ofDigits_append, ofDigits_digits]
  refine congrArg some ((mkRat_eq_mkRat_iff (by decide) (by decide)).mpr ?_)
  rw [show ofDigits ['0'] = 0 from rfl, List.length_singleton, Nat.pow_one]
  omega

example : value? ['4', '8', '.', '0'] = value? ['4', '8'] := by decide

end TrickScore.Decimal
