import TrickScore.Decimal.Shortest

/-!
# Number texts

How a binary64 number is written: with a fixed count of places, or with its shortest digits in a
style that says where the point goes and what stands for the numbers that have no digits.
-/

namespace TrickScore.Decimal

open Binary64 (halfEven unitsPerOne)

/-! ## Shortest digits -/

namespace Scaled

/-- The power of ten of the leading digit. -/
def leading (d : Scaled) : Int :=
  (digits d.coefficient).length - 1 + d.exponent

/-- All digits with the point in its place: `48`, `4.8`, `0.048`, `4800`. -/
def positional (d : Scaled) : List Char :=
  if 0 ≤ d.exponent then digits (d.coefficient * 10 ^ d.exponent.toNat)
  else withPlaces d.coefficient d.exponent.natAbs

/-- One digit before the point and a signed power of ten: `4e+20`, `4.8e-7`. -/
def scientific (d : Scaled) : List Char :=
  let sign := if d.leading < 0 then '-' else '+'
  let power := 'e' :: sign :: digits d.leading.natAbs
  match digits d.coefficient with
  | [] => power
  | [digit] => digit :: power
  | digit :: more => digit :: '.' :: more ++ power

end Scaled

/-- How a number is written with its shortest digits. -/
structure NumberStyle where
  tie : Tie
  /-- Whether a number with this leading power of ten is written without an exponent. -/
  isPositional : Int → Bool
  /-- What follows a whole number that is written without an exponent. -/
  wholeEnd : String
  infinite : Bool → String
  nan : String

namespace NumberStyle

/-- The digits of a magnitude in this style. -/
def magnitude (style : NumberStyle) (m : Magnitude) : List Char :=
  let d := shortest style.tie m
  if style.isPositional d.leading then
    d.positional ++ (if 0 ≤ d.exponent then style.wholeEnd.toList else [])
  else
    d.scientific

/-- The text of a number in this style. -/
def write (style : NumberStyle) : Binary64 → String
  | .nan => style.nan
  | .infinite negative => style.infinite negative
  | .finite negative m =>
    String.ofList ((if negative then ['-'] else []) ++ style.magnitude m)

/-- Plain text for people: never an exponent, and no point in a whole number. A tie goes up. -/
def plain : NumberStyle where
  tie := .up
  isPositional _ := true
  wholeEnd := ""
  infinite negative := if negative then "-inf" else "inf"
  nan := "NaN"

end NumberStyle

/-! ## Fixed places -/

/-- The exact value rounded to the given number of places, a half going to the even digit. The
program cannot print more than 65535 places. -/
def fixed (places : Nat) : Binary64 → String
  | .nan => "NaN"
  | .infinite negative => if negative then "-inf" else "inf"
  | .finite negative m =>
    String.ofList ((if negative then ['-'] else []) ++
      withPlaces (halfEven (m.units * 10 ^ places) unitsPerOne) places)

end TrickScore.Decimal
