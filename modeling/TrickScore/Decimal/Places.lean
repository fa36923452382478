/-!
# Decimal digits at fixed places

Natural numbers written in decimal with a least width, and with a point before a given number of
places. Core's `Nat.toDigits 10` gives the digits and `Nat.ofDigitChars 10` reads them.

Headlines:
* `ofDigits_padded`: a number is read back whatever width it was written at.
* `padded_eq_iff`: at a fixed width, writing a number undoes reading it.
-/

namespace TrickScore.Decimal

/-- The decimal digits of `n`, without leading zeros. -/
def digits (n : Nat) : List Char :=
  Nat.toDigits 10 n

/-- A natural number as text. -/
def text (n : Nat) : String :=
  String.ofList (digits n)

/-- The decimal digits of `n`, with leading zeros up to `width`. -/
def padded (width n : Nat) : List Char :=
  List.replicate (width - (digits n).length) '0' ++ digits n

/-- `n / 10 ^ places` with exactly that many digits after the point, and no point before none. -/
def withPlaces (n places : Nat) : List Char :=
  if places = 0 then digits n
  else digits (n / 10 ^ places) ++ '.' :: padded places (n % 10 ^ places)

/-- The number that a run of digits denotes. -/
def ofDigits (run : List Char) : Nat :=
  Nat.ofDigitChars 10 run 0

theorem isDigit_of_mem_digits {n : Nat} {c : Char} (h : c ∈ digits n) : c.isDigit = true :=
  Nat.isDigit_of_mem_toDigits (by decide) (by decide) h

theorem isDigit_of_mem_padded {width n : Nat} {c : Char} (h : c ∈ padded width n) :
    c.isDigit = true := by
  rcases List.mem_append.mp h with h | h
  · rw [List.eq_of_mem_replicate h]
    rfl
  · exact isDigit_of_mem_digits h

theorem padded_ne_nil (width n : Nat) : padded width n ≠ [] :=
  List.append_ne_nil_of_right_ne_nil _ Nat.toDigits_ne_nil

theorem ofDigits_digits (n : Nat) : ofDigits (digits n) = n := by
  simp [ofDigits, digits]

/-- **Leading zeros do not count.** -/
theorem ofDigits_padded (width n : Nat) : ofDigits (padded width n) = n := by
  simp [ofDigits, padded, digits, Nat.ofDigitChars_append]

/-! ## Runs of a fixed width -/

/-- A number below `10 ^ width` is padded to just that width. -/
theorem length_padded {width n : Nat} (hpos : 0 < width) (h : n < 10 ^ width) :
    (padded width n).length = width := by
  have hle : (digits n).length ≤ width := (Nat.length_toDigits_le_iff (by decide) hpos).mpr h
  rw [padded, List.length_append, List.length_replicate]
  omega

theorem toNat_of_isDigit {c : Char} (h : c.isDigit = true) :
    '0'.toNat ≤ c.toNat ∧ c.toNat < '0'.toNat + 10 := by
  obtain ⟨hzero, hnine⟩ := Char.isDigit_iff_toNat.mp h
  exact ⟨hzero, Nat.lt_succ_of_le hnine⟩

/-- The first digit counts as often as the digits behind it make up a power of ten. -/
theorem ofDigits_cons (c : Char) (run : List Char) :
    ofDigits (c :: run) = 10 ^ run.length * (c.toNat - '0'.toNat) + ofDigits run := by
  rw [ofDigits, Nat.ofDigitChars_cons, Nat.ofDigitChars_eq_ofDigitChars_zero, Nat.mul_zero,
    Nat.zero_add, ofDigits]

/-- A run of digits denotes less than the power of ten of its length. -/
theorem ofDigits_lt {run : List Char} (h : ∀ c ∈ run, c.isDigit = true) :
    ofDigits run < 10 ^ run.length := by
  induction run with
  | nil => decide
  | cons c run ih =>
    have hrest := ih fun d hd => h d (List.mem_cons_of_mem c hd)
    have hdigit : c.toNat - '0'.toNat ≤ 9 := by
      have hc := toNat_of_isDigit (h c List.mem_cons_self)
      omega
    have hfirst := Nat.mul_le_mul_left (10 ^ run.length) hdigit
    rw [ofDigits_cons, List.length_cons, Nat.pow_succ]
    omega

/-- **Runs of one length that denote the same number are the same.** -/
theorem eq_of_ofDigits_eq {run other : List Char} (hrun : ∀ c ∈ run, c.isDigit = true)
    (hother : ∀ c ∈ other, c.isDigit = true) (hlength : run.length = other.length)
    (h : ofDigits run = ofDigits other) : run = other := by
  induction run generalizing other with
  | nil => exact (List.length_eq_zero_iff.mp hlength.symm).symm
  | cons c run ih =>
    cases other with
    | nil => simp at hlength
    | cons d other =>
      have hlength' : run.length = other.length := Nat.succ.inj hlength
      have hrun' : ∀ b ∈ run, b.isDigit = true := fun b hb => hrun b (List.mem_cons_of_mem c hb)
      have hother' : ∀ b ∈ other, b.isDigit = true :=
        fun b hb => hother b (List.mem_cons_of_mem d hb)
      have hlt := ofDigits_lt hrun'
      have hlt' := ofDigits_lt hother'
      rw [ofDigits_cons, ofDigits_cons, ← hlength'] at h
      rw [← hlength'] at hlt'
      -- Both sides are divided by the power of ten: the quotients are the first digits.
      have hfirst : c.toNat - '0'.toNat = d.toNat - '0'.toNat := by
        have hpos : 0 < 10 ^ run.length := Nat.pow_pos (by decide)
        have hdiv := congrArg (· / 10 ^ run.length) h
        simpa only [Nat.mul_add_div hpos, Nat.div_eq_of_lt hlt, Nat.div_eq_of_lt hlt',
          Nat.add_zero] using hdiv
      rw [hfirst] at h
      have hc := toNat_of_isDigit (hrun c List.mem_cons_self)
      have hd := toNat_of_isDigit (hother d List.mem_cons_self)
      have hcd : c = d := Char.toNat_inj.mp (by omega)
      rw [hcd, ih hrun' hother' hlength' (Nat.add_left_cancel h)]

/-- **A number is written as the one run of digits of its width that denotes it.** -/
theorem padded_eq_iff {width n : Nat} {run : List Char} (hpos : 0 < width) (hn : n < 10 ^ width) :
    padded width n = run ↔
      run.length = width ∧ (∀ c ∈ run, c.isDigit = true) ∧ ofDigits run = n := by
  have hlength := length_padded hpos hn
  constructor
  · rintro rfl
    exact ⟨hlength, fun c hc => isDigit_of_mem_padded hc, ofDigits_padded width n⟩
  · rintro ⟨hrun, hdigits, hvalue⟩
    refine eq_of_ofDigits_eq (fun c hc => isDigit_of_mem_padded hc) hdigits ?_ ?_
    · rw [hlength, hrun]
    · rw [ofDigits_padded, hvalue]

end TrickScore.Decimal
