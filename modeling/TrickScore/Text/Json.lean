import TrickScore.Decimal.NumberText

/-!
# JSON text

Compact JSON: no blanks, the members of an object in the order given. A string escapes the quote,
the backslash and the control characters below the space, those with a short escape by it and the
others by four hexadecimal digits; every other character stands for itself. So a JSON text never
holds a line break.

Headlines:
* `space_le_of_mem_quote`: a quoted string holds no control character, so it stands on one line.
-/

namespace TrickScore.Json

open Decimal (NumberStyle)

/-! ## Strings -/

/-- A hexadecimal digit, in lower case. -/
def hexDigit (n : Nat) : Char :=
  Nat.digitChar (n % 16)

/-- How a character is written inside a string. -/
def escape (c : Char) : List Char :=
  match c with
  | '"' => ['\\', '"']
  | '\\' => ['\\', '\\']
  | '\x08' => ['\\', 'b']
  | '\t' => ['\\', 't']
  | '\n' => ['\\', 'n']
  | '\x0c' => ['\\', 'f']
  | '\r' => ['\\', 'r']
  | c =>
    if c.toNat < 0x20 then ['\\', 'u', '0', '0', hexDigit (c.toNat / 16), hexDigit c.toNat]
    else [c]

/-- No hexadecimal digit is a control character. -/
theorem space_lt_hexDigit (n : Nat) : 0x20 < (hexDigit n).toNat := by
  have h : ∀ k, k < 16 → 0x20 < (Nat.digitChar k).toNat := by decide
  exact h _ (Nat.mod_lt _ (by decide))

/-- **No written character is a control character.** -/
theorem space_le_of_mem_escape {c x : Char} (h : x ∈ escape c) : 0x20 ≤ x.toNat := by
  unfold escape at h
  split at h
  case h_8 =>
    split at h
    · have h₁ := space_lt_hexDigit (c.toNat / 16)
      have h₂ := space_lt_hexDigit c.toNat
      simp only [List.mem_cons, List.not_mem_nil, or_false] at h
      rcases h with rfl | rfl | rfl | rfl | rfl | rfl
      all_goals first | decide | omega
    · rw [List.mem_singleton] at h
      subst h
      omega
  all_goals
    simp only [List.mem_cons, List.not_mem_nil, or_false] at h
    rcases h with rfl | rfl <;> decide

/-- A text as a JSON string. -/
def quote (s : String) : String :=
  String.ofList ('"' :: s.toList.flatMap escape ++ ['"'])

/-- A quoted string is printed on one line: it holds no control character at all. -/
theorem space_le_of_mem_quote {s : String} {x : Char} (h : x ∈ (quote s).toList) :
    0x20 ≤ x.toNat := by
  simp only [quote, String.toList_ofList, List.cons_append, List.mem_cons, List.mem_append,
    List.mem_flatMap, List.not_mem_nil, or_false] at h
  rcases h with rfl | ⟨c, _, hx⟩ | rfl
  · decide
  · exact space_le_of_mem_escape hx
  · decide

/-! ## Numbers -/

/-- Numbers have their shortest digits, a whole one with `.0`. From `1e+16` up and below `1e-5` they
have an exponent. A tie goes to the even digit, and what is not finite is `null`. -/
def numberStyle : NumberStyle where
  tie := .toEven
  isPositional leading := -5 ≤ leading && leading < 16
  wholeEnd := ".0"
  infinite _ := "null"
  nan := "null"

/-- A binary64 number. -/
def number (x : Binary64) : String :=
  numberStyle.write x

/-! ## Collections -/

/-- An array of JSON texts. -/
def array (items : List String) : String :=
  "[" ++ ",".intercalate items ++ "]"

/-- One member of an object. -/
def member (name value : String) : String :=
  quote name ++ ":" ++ value

/-- An object of named JSON texts. -/
def object (members : List (String × String)) : String :=
  "\x7b" ++ ",".intercalate (members.map fun (name, value) => member name value) ++ "\x7d"

/-- A member that is left out when there is nothing to say. -/
def optional (name : String) (value : Option String) : List (String × String) :=
  match value with
  | some text => [(name, text)]
  | none => []

end TrickScore.Json
