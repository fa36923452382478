import TrickScore.Delimited.Record

/-!
# Cutting off a record outside quotes

Outside quotes a byte is the delimiter, a line break or a byte of the field; a quote has a meaning
only in front of a field and right behind its closing quote. So the reader does the same in three of
its four modes (`Mode.step_eq_plainStep`), and each step of `cut` is said for all three at once.

Headlines:
* `cut_delimiter`, `cut_field`, `cut_atEnd`: the three steps outside quotes.
-/

namespace TrickScore.Delimited

/-- Bytes that are pushed one by one stand in front of the field. -/
theorem foldr_push (bs : List UInt8) (c : Cut) :
    bs.foldr Cut.push c = { c with field := bs ++ c.field } := by
  induction bs with
  | nil => rfl
  | cons b bs ih => rw [List.foldr_cons, ih]; rfl

/-- **Outside quotes every byte but a quote does the same**, in whichever mode. -/
theorem Mode.step_eq_plainStep {mode : Mode} (hmode : mode ≠ .quoted) {b : UInt8}
    (hb : b ≠ quoteByte) (delimiter : UInt8) : mode.step delimiter b = plainStep delimiter b := by
  cases mode with
  | start => exact if_neg hb
  | plain => rfl
  | quoted => exact absurd rfl hmode
  | closed => exact if_neg hb

/-- A delimiter ends the field. -/
theorem cut_delimiter {mode : Mode} (hmode : mode ≠ .quoted) {delimiter : UInt8}
    (hquote : delimiter ≠ quoteByte) (rest : List UInt8) :
    cut delimiter mode (delimiter :: rest) = (cut delimiter .start rest).endField := by
  rw [cut, Mode.step_eq_plainStep hmode hquote, plainStep, if_pos rfl]

/-- A byte without a meaning belongs to the field. -/
theorem cut_field {mode : Mode} (hmode : mode ≠ .quoted) {delimiter b : UInt8}
    (hquote : b ≠ quoteByte) (hdelimiter : b ≠ delimiter) (hbreak : isBreak b = false)
    (rest : List UInt8) :
    cut delimiter mode (b :: rest) = (cut delimiter .plain rest).push b := by
  rw [cut, Mode.step_eq_plainStep hmode hquote, plainStep, if_neg hdelimiter,
    if_neg (by rw [hbreak]; exact Bool.false_ne_true)]

/-- The record may end here: at the end of the input or at a line break. -/
def AtEnd (rest : List UInt8) : Prop :=
  ∀ b ∈ rest.head?, isBreak b = true

/-- Where a record may end, it does. Of a line break one byte is taken. -/
theorem cut_atEnd {mode : Mode} (hmode : mode ≠ .quoted) {delimiter : UInt8}
    (hbreak : isBreak delimiter = false) {rest : List UInt8} (h : AtEnd rest) :
    cut delimiter mode rest = ⟨[], [], rest.tail⟩ := by
  cases rest with
  | nil => rw [cut, List.tail_nil]
  | cons b rest =>
    have hb : isBreak b = true := h b rfl
    have hquote : b ≠ quoteByte := by
      rintro rfl
      exact absurd hb (by decide)
    have hdelimiter : b ≠ delimiter := by
      rintro rfl
      rw [hb] at hbreak
      cases hbreak
    rw [cut, Mode.step_eq_plainStep hmode hquote, plainStep, if_neg hdelimiter, if_pos hb,
      List.tail_cons]

end TrickScore.Delimited
