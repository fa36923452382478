import TrickScore.Decimal.Places

/-!
# Calendar dates

Days of the proleptic Gregorian calendar, for years of any sign, and how they are written. A year
from 0 to 9999 has four digits; any other carries its sign and at least four.

The dates that `parse_date` accepts are among them.
-/

namespace TrickScore

/-! ## The calendar -/

/-- A year divisible by four, except the centuries that are not divisible by four hundred. -/
def isLeapYear (year : Int) : Bool :=
  year % 4 = 0 && (year % 100 ≠ 0 || year % 400 = 0)

/-- How many days a month has; none if there is no such month. -/
def daysInMonth (year : Int) (month : Nat) : Nat :=
  match month with
  | 1 | 3 | 5 | 7 | 8 | 10 | 12 => 31
  | 4 | 6 | 9 | 11 => 30
  | 2 => if isLeapYear year then 29 else 28
  | _ => 0

theorem daysInMonth_le (year : Int) (month : Nat) : daysInMonth year month ≤ 31 := by
  unfold daysInMonth
  repeat' split
  all_goals omega

/-- A day that exists. -/
structure Date where
  year : Int
  month : Nat
  day : Nat
  one_le_day : 1 ≤ day
  day_le : day ≤ daysInMonth year month
  deriving DecidableEq

namespace Date

@[ext] theorem ext {x y : Date} (hyear : x.year = y.year) (hmonth : x.month = y.month)
    (hday : x.day = y.day) : x = y := by
  cases x; cases y; cases hyear; cases hmonth; cases hday; rfl

/-- The month of a date is one of twelve. -/
theorem month_bounds (date : Date) : 1 ≤ date.month ∧ date.month ≤ 12 := by
  have h : 1 ≤ daysInMonth date.year date.month := Nat.le_trans date.one_le_day date.day_le
  unfold daysInMonth at h
  split at h <;> omega

/-- No month has more than 31 days. -/
theorem day_le_thirtyOne (date : Date) : date.day ≤ 31 :=
  Nat.le_trans date.day_le (daysInMonth_le date.year date.month)

/-- The date with these parts, if there is such a day. -/
def ofParts? (year : Int) (month day : Nat) : Option Date :=
  if h : 1 ≤ day ∧ day ≤ daysInMonth year month then some ⟨year, month, day, h.1, h.2⟩ else none

theorem ofParts?_eq_some_iff {year : Int} {month day : Nat} {date : Date} :
    ofParts? year month day = some date ↔
      date.year = year ∧ date.month = month ∧ date.day = day := by
  unfold ofParts?
  split
  · constructor
    · intro h
      cases h
      exact ⟨rfl, rfl, rfl⟩
    · rintro ⟨rfl, rfl, rfl⟩
      rfl
  · rename_i hnot
    simp only [reduceCtorEq, false_iff, not_and]
    rintro rfl rfl rfl
    exact hnot ⟨date.one_le_day, date.day_le⟩

/-! ## Writing -/

/-- The name of a month. -/
def monthName (month : Nat) : String :=
  ["January", "February", "March", "April", "May", "June", "July", "August", "September", "October",
    "November", "December"].getD (month - 1) ""

/-- Four digits for a year from 0 to 9999, else a sign and at least four digits. -/
def yearText (year : Int) : List Char :=
  if 0 ≤ year ∧ year ≤ 9999 then Decimal.padded 4 year.toNat
  else (if year < 0 then '-' else '+') :: Decimal.padded 4 year.natAbs

/-- Day, month and year without anything between them. -/
def compact (date : Date) : List Char :=
  Decimal.padded 2 date.day ++ Decimal.padded 2 date.month ++ yearText date.year

/-- Year, month and day with hyphens. -/
def iso (date : Date) : String :=
  String.ofList (yearText date.year ++ '-' :: Decimal.padded 2 date.month ++
    '-' :: Decimal.padded 2 date.day)

/-- The date in words: month, day and year. -/
def words (date : Date) : String :=
  monthName date.month ++ " " ++ String.ofList (Decimal.padded 2 date.day) ++ ", " ++
    String.ofList (yearText date.year)

end Date

end TrickScore
