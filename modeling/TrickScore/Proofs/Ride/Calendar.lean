import TrickScore.Ride.Log

/-!
# Days in eight digits

The calendar said by its rules, without a table of months, and the eight digits in front of a ride
log said by what they denote. A day of the years 1 to 9999 is written in eight digits that denote
it, and from eight digits no other day is read.

Headlines:
* `calendarDay_iff`: the days that the table of months allows are those of the calendar's rules.
* `Date.compact_eq_iff`: a day is written as the eight digits that denote it.
* **`readDate_eq_ok_iff`**: what is read is the day whose written form stands there.
* `readDate_of_not_eightDigits`, `readDate_of_not_namesDay`: what is said otherwise.
-/

namespace TrickScore

/-! ## The calendar by its rules -/

/-- **A day of the proleptic Gregorian calendar.** Four months have thirty days and February has
twenty-nine at most, the last in leap years only: those divisible by 4, but of the centuries only
those divisible by 400. -/
structure CalendarDay (year : Int) (month day : Nat) : Prop where
  one_le_month : 1 ≤ month
  month_le : month ≤ 12
  one_le_day : 1 ≤ day
  day_le : day ≤ 31
  thirty : month ∈ [4, 6, 9, 11] → day ≤ 30
  february : month = 2 → day ≤ 29
  leapDay : month = 2 → day = 29 → 4 ∣ year ∧ (100 ∣ year → 400 ∣ year)

theorem isLeapYear_iff {year : Int} :
    isLeapYear year = true ↔ 4 ∣ year ∧ (100 ∣ year → 400 ∣ year) := by
  simp only [isLeapYear, Bool.and_eq_true, Bool.or_eq_true, decide_eq_true_eq]
  omega

theorem daysInMonth_of_thirty {month : Nat} (h : month ∈ [4, 6, 9, 11]) (year : Int) :
    daysInMonth year month = 30 := by
  simp only [List.mem_cons, List.not_mem_nil, or_false] at h
  rcases h with rfl | rfl | rfl | rfl <;> rfl

theorem daysInMonth_of_thirtyOne {month : Nat} (h : month ∈ [1, 3, 5, 7, 8, 10, 12])
    (year : Int) : daysInMonth year month = 31 := by
  simp only [List.mem_cons, List.not_mem_nil, or_false] at h
  rcases h with rfl | rfl | rfl | rfl | rfl | rfl | rfl <;> rfl

theorem daysInMonth_of_not_month {month : Nat} (h : ¬ (1 ≤ month ∧ month ≤ 12)) (year : Int) :
    daysInMonth year month = 0 := by
  unfold daysInMonth
  split <;> omega

/-- A month has thirty days, or is February, or has thirty-one days. -/
theorem month_cases {month : Nat} (h : 1 ≤ month ∧ month ≤ 12) :
    month ∈ [4, 6, 9, 11] ∨ month = 2 ∨ month ∈ [1, 3, 5, 7, 8, 10, 12] := by
  simp only [List.mem_cons, List.not_mem_nil, or_false]
  omega

/-- **The table of months holds the days of the calendar.** -/
theorem calendarDay_iff {year : Int} {month day : Nat} :
    CalendarDay year month day ↔ 1 ≤ day ∧ day ≤ daysInMonth year month := by
  by_cases hmonth : 1 ≤ month ∧ month ≤ 12
  · rcases month_cases hmonth with hthirty | rfl | hlong
    · rw [daysInMonth_of_thirty hthirty]
      have htwo : month ≠ 2 := fun h => by simp [h] at hthirty
      constructor
      · intro h
        exact ⟨h.one_le_day, h.thirty hthirty⟩
      · rintro ⟨hone, hle⟩
        exact ⟨hmonth.1, hmonth.2, hone, by omega, fun _ => hle, fun h => absurd h htwo,
          fun h => absurd h htwo⟩
    · rw [show daysInMonth year 2 = if isLeapYear year then 29 else 28 from rfl]
      constructor
      · intro h
        have hle := h.february rfl
        refine ⟨h.one_le_day, ?_⟩
        split
        · exact hle
        · rename_i hleap
          have hne : day ≠ 29 := fun hd => hleap (isLeapYear_iff.mpr (h.leapDay rfl hd))
          omega
      · rintro ⟨hone, hle⟩
        have hle' : day ≤ 29 := by split at hle <;> omega
        refine ⟨hmonth.1, hmonth.2, hone, by omega, fun h => by simp at h, fun _ => hle',
          fun _ hd => ?_⟩
        split at hle
        · rename_i hleap
          exact isLeapYear_iff.mp hleap
        · omega
    · rw [daysInMonth_of_thirtyOne hlong]
      constructor
      · intro h
        exact ⟨h.one_le_day, h.day_le⟩
      · rintro ⟨hone, hle⟩
        refine ⟨hmonth.1, hmonth.2, hone, hle, fun h => ?_, fun h => ?_, fun h => ?_⟩
        · simp only [List.mem_cons, List.not_mem_nil, or_false] at h hlong
          omega
        · simp [h] at hlong
        · simp [h] at hlong
  · rw [daysInMonth_of_not_month hmonth]
    constructor
    · intro h
      exact absurd ⟨h.one_le_month, h.month_le⟩ hmonth
    · rintro ⟨hone, hle⟩
      omega

instance (year : Int) (month day : Nat) : Decidable (CalendarDay year month day) :=
  decidable_of_iff (1 ≤ day ∧ day ≤ daysInMonth year month) calendarDay_iff.symm

/-! ## Eight digits -/

/-- Eight characters, all of them digits. -/
structure EightDigits (written : List Char) : Prop where
  length : written.length = 8
  digits : ∀ c ∈ written, c.isDigit = true

instance (written : List Char) : Decidable (EightDigits written) :=
  decidable_of_iff (written.length = 8 ∧ written.all Char.isDigit = true)
    ⟨fun h => ⟨h.1, List.all_eq_true.mp h.2⟩, fun h => ⟨h.length, List.all_eq_true.mpr h.digits⟩⟩

/-- The number that stands first in `DDMMYYYY`. -/
def dayIn (written : List Char) : Nat :=
  Decimal.ofDigits (written.take 2)

/-- The number that stands second in `DDMMYYYY`. -/
def monthIn (written : List Char) : Nat :=
  Decimal.ofDigits ((written.drop 2).take 2)

/-- The number that stands last in `DDMMYYYY`. -/
def yearIn (written : List Char) : Nat :=
  Decimal.ofDigits (written.drop 4)

/-- **Eight digits that name a day**, of the calendar and not of a year 0. -/
structure NamesDay (written : List Char) : Prop extends EightDigits written where
  calendar : CalendarDay (yearIn written) (monthIn written) (dayIn written)
  one_le_year : 1 ≤ yearIn written

instance (written : List Char) : Decidable (NamesDay written) :=
  decidable_of_iff (EightDigits written ∧
      CalendarDay (yearIn written) (monthIn written) (dayIn written) ∧ 1 ≤ yearIn written)
    ⟨fun h => ⟨h.1, h.2.1, h.2.2⟩, fun h => ⟨h.toEightDigits, h.calendar, h.one_le_year⟩⟩

/-- Four digits do not reach beyond the year 9999. -/
theorem EightDigits.yearIn_le {written : List Char} (h : EightDigits written) :
    yearIn written ≤ 9999 := by
  have hlength : (written.drop 4).length = 4 := by rw [List.length_drop, h.length]
  have hdigits : ∀ c ∈ written.drop 4, c.isDigit = true :=
    fun c hc => h.digits c (List.mem_of_mem_drop hc)
  have hlt := Decimal.ofDigits_lt hdigits
  rw [hlength] at hlt
  exact Nat.le_of_lt_succ hlt

/-- No hyphen stands among eight digits. -/
theorem EightDigits.hyphen_not_mem {written : List Char} (h : EightDigits written) :
    '-' ∉ written :=
  fun hmem => absurd (h.digits _ hmem) (by decide)

namespace Date

/-- The text is eight digits that denote the parts of the date. -/
structure WrittenAs (date : Date) (written : List Char) : Prop extends EightDigits written where
  day : dayIn written = date.day
  month : monthIn written = date.month
  year : (yearIn written : Int) = date.year

theorem yearText_of_fourDigits {year : Int} (hnonneg : 0 ≤ year) (hle : year ≤ 9999) :
    yearText year = Decimal.padded 4 year.toNat :=
  if_pos ⟨hnonneg, hle⟩

theorem day_lt (date : Date) : date.day < 10 ^ 2 :=
  Nat.lt_of_le_of_lt date.day_le_thirtyOne (by decide)

theorem month_lt (date : Date) : date.month < 10 ^ 2 :=
  Nat.lt_of_le_of_lt date.month_bounds.2 (by decide)

theorem year_lt {year : Int} (hle : year ≤ 9999) : year.toNat < 10 ^ 4 := by
  omega

/-- The written form of a date with a year of four digits denotes it. -/
theorem writtenAs_compact {date : Date} (hnonneg : 0 ≤ date.year) (hle : date.year ≤ 9999) :
    date.WrittenAs date.compact := by
  have hday := Decimal.length_padded (by decide) date.day_lt
  have hmonth := Decimal.length_padded (by decide) date.month_lt
  have hyear := Decimal.length_padded (by decide) (year_lt hle)
  rw [compact, yearText_of_fourDigits hnonneg hle]
  refine ⟨⟨?_, ?_⟩, ?_, ?_, ?_⟩
  · simp only [List.length_append, hday, hmonth, hyear]
  · intro c hc
    simp only [List.mem_append] at hc
    rcases hc with (hc | hc) | hc
    · exact Decimal.isDigit_of_mem_padded hc
    · exact Decimal.isDigit_of_mem_padded hc
    · exact Decimal.isDigit_of_mem_padded hc
  · rw [dayIn, List.append_assoc, List.take_left' hday, Decimal.ofDigits_padded]
  · rw [monthIn, List.append_assoc, List.drop_left' hday, List.take_left' hmonth,
      Decimal.ofDigits_padded]
  · rw [yearIn, List.drop_left' (by rw [List.length_append, hday, hmonth]),
      Decimal.ofDigits_padded]
    omega

/-- Eight digits that denote a date are its written form. -/
theorem WrittenAs.eq_compact {date : Date} {written : List Char} (h : date.WrittenAs written)
    (hnonneg : 0 ≤ date.year) (hle : date.year ≤ 9999) : date.compact = written := by
  have hlength := h.length
  have hday : Decimal.padded 2 date.day = written.take 2 :=
    (Decimal.padded_eq_iff (by decide) date.day_lt).mpr
      ⟨by simp [hlength], fun c hc => h.digits c (List.mem_of_mem_take hc), h.day⟩
  have hmonth : Decimal.padded 2 date.month = (written.drop 2).take 2 :=
    (Decimal.padded_eq_iff (by decide) date.month_lt).mpr
      ⟨by simp [hlength],
        fun c hc => h.digits c (List.mem_of_mem_drop (List.mem_of_mem_take hc)), h.month⟩
  have hyear : Decimal.padded 4 date.year.toNat = (written.drop 2).drop 2 := by
    have hvalue : Decimal.ofDigits (written.drop 4) = date.year.toNat := by
      rw [← h.year, Int.toNat_natCast, yearIn]
    rw [List.drop_drop]
    exact (Decimal.padded_eq_iff (by decide) (year_lt hle)).mpr
      ⟨by simp [hlength], fun c hc => h.digits c (List.mem_of_mem_drop hc), hvalue⟩
  rw [compact, yearText_of_fourDigits hnonneg hle, hday, hmonth, hyear, List.append_assoc,
    List.take_append_drop, List.take_append_drop]

/-- **A date with a year of four digits is written as the eight digits that denote it**, and as no
others. -/
theorem compact_eq_iff {date : Date} (hnonneg : 0 ≤ date.year) (hle : date.year ≤ 9999)
    {written : List Char} : date.compact = written ↔ date.WrittenAs written := by
  constructor
  · rintro rfl
    exact writtenAs_compact hnonneg hle
  · intro h
    exact h.eq_compact hnonneg hle

/-- The date that eight digits denote is read from them, unless its year is 0. -/
theorem ofCompact?_eq_some_iff {written : List Char} {date : Date} :
    ofCompact? written = some date ↔
      yearIn written ≠ 0 ∧ dayIn written = date.day ∧ monthIn written = date.month ∧
        (yearIn written : Int) = date.year := by
  rw [ofCompact?]
  change (if yearIn written = 0 then none
    else ofParts? (yearIn written) (monthIn written) (dayIn written)) = some date ↔ _
  split
  · rename_i hzero
    simp [hzero]
  · rename_i hzero
    rw [ofParts?_eq_some_iff]
    constructor
    · rintro ⟨hy, hm, hd⟩
      exact ⟨hzero, hd.symm, hm.symm, hy.symm⟩
    · rintro ⟨-, hd, hm, hy⟩
      exact ⟨hy.symm, hm.symm, hd.symm⟩

end Date

/-! ## Reading a date -/

theorem readDate_of_eightDigits {written : List Char} (h : EightDigits written) :
    readDate written =
      match Date.ofCompact? written with
      | some date => .ok date
      | none => .error (.noSuchDate (String.ofList written)) :=
  if_pos ⟨h.length, List.all_eq_true.mpr h.digits⟩

/-- What is not eight digits is no date. -/
theorem readDate_of_not_eightDigits {written : List Char} (h : ¬ EightDigits written) :
    readDate written = .error (.dateLength (String.ofList written)) :=
  if_neg fun hif => h ⟨hif.1, List.all_eq_true.mp hif.2⟩

/-- **A date is read from the digits that denote it.** -/
theorem readDate_eq_ok_iff_writtenAs {written : List Char} {date : Date} :
    readDate written = .ok date ↔ date.WrittenAs written ∧ 1 ≤ date.year := by
  by_cases h : EightDigits written
  · rw [readDate_of_eightDigits h]
    have hsome : (match Date.ofCompact? written with
        | some date => Except.ok date
        | none => .error (RideError.noSuchDate (String.ofList written))) = .ok date ↔
        Date.ofCompact? written = some date := by
      cases Date.ofCompact? written <;> simp
    rw [hsome, Date.ofCompact?_eq_some_iff]
    constructor
    · rintro ⟨hzero, hd, hm, hy⟩
      exact ⟨⟨h, hd, hm, hy⟩, by omega⟩
    · rintro ⟨hw, hone⟩
      have hyear := hw.year
      exact ⟨by omega, hw.day, hw.month, hw.year⟩
  · rw [readDate_of_not_eightDigits h]
    constructor
    · intro hok
      cases hok
    · rintro ⟨hw, -⟩
      exact absurd hw.toEightDigits h

/-- **A date is read from its own written form, and from nothing else**, if its year is one of 1 to
9999. -/
theorem readDate_eq_ok_iff {written : List Char} {date : Date} :
    readDate written = .ok date ↔
      1 ≤ date.year ∧ date.year ≤ 9999 ∧ date.compact = written := by
  rw [readDate_eq_ok_iff_writtenAs]
  constructor
  · rintro ⟨hw, hone⟩
    have hle := hw.toEightDigits.yearIn_le
    have hyear := hw.year
    have hle' : date.year ≤ 9999 := by omega
    exact ⟨hone, hle', (Date.compact_eq_iff (by omega) hle').mpr hw⟩
  · rintro ⟨hone, hle, hcompact⟩
    exact ⟨(Date.compact_eq_iff (by omega) hle).mp hcompact, hone⟩

/-- **A date is read iff the digits name a day.** -/
theorem exists_readDate_iff {written : List Char} :
    (∃ date, readDate written = .ok date) ↔ NamesDay written := by
  simp only [readDate_eq_ok_iff_writtenAs]
  constructor
  · rintro ⟨date, hw, hone⟩
    have hyear := hw.year
    refine ⟨hw.toEightDigits, ?_, by omega⟩
    rw [hw.day, hw.month, hw.year]
    exact calendarDay_iff.mpr ⟨date.one_le_day, date.day_le⟩
  · intro h
    obtain ⟨hone, hle⟩ := calendarDay_iff.mp h.calendar
    have hyear := h.one_le_year
    exact ⟨⟨yearIn written, monthIn written, dayIn written, hone, hle⟩,
      ⟨h.toEightDigits, rfl, rfl, rfl⟩, Int.ofNat_le.mpr hyear⟩

/-- Eight digits that name no day are no date. -/
theorem readDate_of_not_namesDay {written : List Char} (h : EightDigits written)
    (hday : ¬ NamesDay written) :
    readDate written = .error (.noSuchDate (String.ofList written)) := by
  rw [readDate_of_eightDigits h]
  cases hread : Date.ofCompact? written with
  | none => rfl
  | some date =>
    refine absurd (exists_readDate_iff.mp ⟨date, ?_⟩) hday
    rw [readDate_of_eightDigits h, hread]

end TrickScore
