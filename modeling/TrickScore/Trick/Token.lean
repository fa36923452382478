import TrickScore.Trick.Symbol
import TrickScore.Decimal.Places

/-!
# Tokens of a trick signature

A token is an action letter, a count and a modifier letter, such as `L4B`. A signature is scanned
from the left: where a token begins, it is taken whole and the scan goes on behind it; everywhere
else one character is skipped. So tokens may stand apart by any text or by none.

Model of `TrickToken` and `tokenize`.

Headlines:
* `Lexeme.read?_eq_some_iff`: what is taken is a letter, a run of digits and a letter, with nothing
  between.
* `Token.ofLexeme_eq_error_iff`: only a count of `2 ^ 64` or more is refused.
-/

namespace TrickScore

/-- An action symbol, a count and a modifier symbol. They need not be letters of the grammar. -/
structure Token where
  action : Char
  count : UInt64
  modifier : Char
  deriving DecidableEq

/-- The written form of a token, with its digits as they stand. -/
structure Lexeme where
  action : Char
  digits : List Char
  modifier : Char
  deriving DecidableEq

/-- A symbol is one of the action letters. -/
def isActionSymbol (c : Char) : Bool :=
  (Action.alphabet.ofSymbol? c).isSome

/-- A symbol is one of the modifier letters. -/
def isModifierSymbol (c : Char) : Bool :=
  (Modifier.alphabet.ofSymbol? c).isSome

/-- No modifier letter is a digit, so a modifier ends the run of digits before it. -/
theorem isDigit_of_isModifierSymbol {c : Char} (h : isModifierSymbol c = true) :
    c.isDigit = false := by
  obtain ⟨modifier, hm⟩ := Option.isSome_iff_exists.mp h
  rw [Alphabet.ofSymbol?_eq_some_iff.mp hm]
  cases modifier <;> rfl

/-! ## Lexemes -/

namespace Lexeme

/-- The characters of a lexeme. -/
def text (lexeme : Lexeme) : List Char :=
  lexeme.action :: lexeme.digits ++ [lexeme.modifier]

/-- A lexeme of the grammar: a letter, at least one digit, a letter. -/
structure WellFormed (lexeme : Lexeme) : Prop where
  action : isActionSymbol lexeme.action = true
  digits_ne_nil : lexeme.digits ≠ []
  digits : ∀ c ∈ lexeme.digits, c.isDigit = true
  modifier : isModifierSymbol lexeme.modifier = true

/-- The lexeme with which the characters begin, and what follows it. -/
def read? : List Char → Option (Lexeme × List Char)
  | [] => none
  | action :: cs =>
    match cs.takeWhile Char.isDigit, cs.dropWhile Char.isDigit with
    | digit :: digits, modifier :: rest =>
      if isActionSymbol action && isModifierSymbol modifier then
        some (⟨action, digit :: digits, modifier⟩, rest)
      else
        none
    | _, _ => none

/-- What is read and what is left are the characters that were there. -/
theorem append_eq_of_read? {cs rest : List Char} {lexeme : Lexeme}
    (h : read? cs = some (lexeme, rest)) : cs = lexeme.text ++ rest := by
  unfold read? at h
  split at h
  · simp at h
  · rename_i action cs
    split at h
    · rename_i digit digits modifier rest' htake hdrop
      split at h
      · obtain ⟨rfl, rfl⟩ : _ ∧ _ := by simpa using h
        have hsplit := List.takeWhile_append_dropWhile (p := Char.isDigit) (l := cs)
        rw [htake, hdrop] at hsplit
        simp [text, ← hsplit]
      · simp at h
    · simp at h

/-- What is read is a lexeme of the grammar. -/
theorem wellFormed_of_read? {cs rest : List Char} {lexeme : Lexeme}
    (h : read? cs = some (lexeme, rest)) : lexeme.WellFormed := by
  unfold read? at h
  split at h
  · simp at h
  · rename_i action cs
    split at h
    · rename_i digit digits modifier rest' htake hdrop
      split at h
      · rename_i hletters
        rw [Bool.and_eq_true] at hletters
        obtain ⟨rfl, rfl⟩ : _ ∧ _ := by simpa using h
        refine ⟨hletters.1, by simp, fun c hc => ?_, hletters.2⟩
        have hall := List.all_takeWhile (p := Char.isDigit) (l := cs)
        rw [htake] at hall
        exact List.all_eq_true.mp hall c hc
      · simp at h
    · simp at h

/-- A lexeme of the grammar is read back from its characters, whatever follows. -/
theorem read?_text_append {lexeme : Lexeme} (h : lexeme.WellFormed) (rest : List Char) :
    read? (lexeme.text ++ rest) = some (lexeme, rest) := by
  obtain ⟨action, digits, modifier⟩ := lexeme
  have hend := isDigit_of_isModifierSymbol h.modifier
  have htake : (digits ++ modifier :: rest).takeWhile Char.isDigit = digits := by
    rw [List.takeWhile_append_of_pos h.digits]
    simp [hend]
  have hdrop : (digits ++ modifier :: rest).dropWhile Char.isDigit = modifier :: rest := by
    rw [List.dropWhile_append_of_pos h.digits]
    simp [hend]
  have hne := h.digits_ne_nil
  have hletters := And.intro h.action h.modifier
  simp only [text, List.cons_append, List.append_assoc, List.nil_append, read?, htake, hdrop]
  cases digits with
  | nil => exact absurd rfl hne
  | cons digit digits => simp [hletters]

/-- **What is read is a lexeme of the grammar with which the text begins, and any such is read.** -/
theorem read?_eq_some_iff {cs rest : List Char} {lexeme : Lexeme} :
    read? cs = some (lexeme, rest) ↔ lexeme.WellFormed ∧ cs = lexeme.text ++ rest :=
  ⟨fun h => ⟨wellFormed_of_read? h, append_eq_of_read? h⟩,
    fun ⟨hw, he⟩ => he ▸ read?_text_append hw rest⟩

/-- Reading takes at least one character. -/
theorem length_lt_of_read? {cs rest : List Char} {lexeme : Lexeme}
    (h : read? cs = some (lexeme, rest)) : rest.length < cs.length := by
  rw [append_eq_of_read? h]
  simp [text]
  omega

/-- All lexemes of a text, from the left, none within another. -/
def scan : List Char → List Lexeme
  | [] => []
  | c :: cs =>
    match _h : read? (c :: cs) with
    | some (lexeme, rest) => lexeme :: scan rest
    | none => scan cs
termination_by cs => cs.length
decreasing_by
  · exact length_lt_of_read? _h
  · simp

end Lexeme

/-! ## Tokens -/

namespace Token

/-- A lexeme with its count read. Counts end below `2 ^ 64`. -/
def ofLexeme (lexeme : Lexeme) : Except TrickError Token :=
  let count := Decimal.ofDigits lexeme.digits
  if count < 2 ^ 64 then
    .ok ⟨lexeme.action, UInt64.ofNat count, lexeme.modifier⟩
  else
    .error (.countOutOfRange (String.ofList lexeme.digits))

/-- **Only a count of `2 ^ 64` or more is refused**, and its digits are kept as written. -/
theorem ofLexeme_eq_error_iff {lexeme : Lexeme} {e : TrickError} :
    ofLexeme lexeme = .error e ↔
      2 ^ 64 ≤ Decimal.ofDigits lexeme.digits ∧
        e = .countOutOfRange (String.ofList lexeme.digits) := by
  unfold ofLexeme
  dsimp only
  split
  · rename_i h
    simp only [reduceCtorEq, false_iff, not_and]
    omega
  · rename_i h
    simp only [Except.error.injEq]
    constructor
    · exact fun he => ⟨by omega, he.symm⟩
    · exact fun he => he.2.symm

/-- The tokens of a signature. The first count out of range fails the whole. -/
def scan (signature : String) : Except TrickError (List Token) :=
  (Lexeme.scan signature.toList).mapM ofLexeme

end Token

end TrickScore
