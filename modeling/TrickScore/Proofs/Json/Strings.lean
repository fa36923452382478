import TrickScore.Text.Json

/-!
# JSON strings are read back

A character is written in a string so that where its escape ends can be told from the escape itself
(`readEscaped?_escape`), and no escape begins with a quote. So the closing quote is found whatever
the string holds, and the string with it.

Headlines:
* `readEscaped?_escape`: a written character is read back, whatever follows.
* **`quote_append_inj`**: texts that begin with a quoted string begin with the same one if they are
  the same.
-/

namespace TrickScore.Json

/-- The value of a hexadecimal digit, in lower case. -/
def hexValue (c : Char) : Nat :=
  if c.isDigit then c.toNat - '0'.toNat else c.toNat - 'a'.toNat + 10

/-- The character that stands behind a backslash in a short escape means this one. -/
def shortEscape? : Char → Option Char
  | '"' => some '"'
  | '\\' => some '\\'
  | 'b' => some '\x08'
  | 't' => some '\t'
  | 'n' => some '\n'
  | 'f' => some '\x0c'
  | 'r' => some '\r'
  | _ => none

/-- The character with whose escape a text begins, and what follows it. A quote ends the string. -/
def readEscaped? : List Char → Option (Char × List Char)
  | [] => none
  | '"' :: _ => none
  | '\\' :: 'u' :: '0' :: '0' :: high :: low :: rest =>
    some (Char.ofNat (16 * hexValue high + hexValue low), rest)
  | '\\' :: short :: rest => (shortEscape? short).map (·, rest)
  | c :: rest => some (c, rest)

theorem hexValue_hexDigit (n : Nat) : hexValue (hexDigit n) = n % 16 := by
  have h : ∀ k < 16, hexValue (Nat.digitChar k) = k := by decide
  exact h _ (Nat.mod_lt _ (by decide))

/-- **A written character is read back**, whatever follows. -/
theorem readEscaped?_escape (c : Char) (rest : List Char) :
    readEscaped? (escape c ++ rest) = some (c, rest) := by
  unfold escape
  split
  case h_8 hquote hbackslash _ _ _ _ _ =>
    split
    · rename_i hcontrol
      have hvalue : 16 * hexValue (hexDigit (c.toNat / 16)) + hexValue (hexDigit c.toNat) =
          c.toNat := by
        rw [hexValue_hexDigit, hexValue_hexDigit]
        omega
      simp only [List.cons_append, List.nil_append, readEscaped?, hvalue, Char.ofNat_toNat]
    · rw [List.singleton_append, readEscaped?]
      · exact hquote
      · exact fun _ _ _ hc _ => hbackslash hc
      · exact fun _ _ hc _ => hbackslash hc
  all_goals rfl

/-- Strings that are closed by a quote are the same if the texts are, and so is what follows. -/
theorem flatMap_escape_append_inj {cs ds rest behind : List Char}
    (h : cs.flatMap escape ++ '"' :: rest = ds.flatMap escape ++ '"' :: behind) :
    cs = ds ∧ rest = behind := by
  induction cs generalizing ds with
  | nil =>
    cases ds with
    | nil => exact ⟨rfl, (List.cons.inj h).2⟩
    | cons d ds =>
      have hread := congrArg readEscaped? h
      rw [List.flatMap_cons, List.append_assoc, readEscaped?_escape] at hread
      cases hread
  | cons c cs ih =>
    have hread := congrArg readEscaped? h
    rw [List.flatMap_cons, List.append_assoc, readEscaped?_escape] at hread
    cases ds with
    | nil => cases hread
    | cons d ds =>
      rw [List.flatMap_cons, List.append_assoc, readEscaped?_escape, Option.some.injEq,
        Prod.mk.injEq] at hread
      obtain ⟨rfl, hrest⟩ := ih hread.2
      exact ⟨by rw [hread.1], hrest⟩

/-- **Texts that begin with a quoted string begin with the same one if they are the same**, and go
on the same. -/
theorem quote_append_inj {s t : String} {rest behind : List Char}
    (h : (quote s).toList ++ rest = (quote t).toList ++ behind) : s = t ∧ rest = behind := by
  simp only [quote, String.toList_ofList, List.cons_append, List.append_assoc, List.nil_append,
    List.cons.injEq, true_and] at h
  obtain ⟨hchars, hrest⟩ := flatMap_escape_append_inj h
  exact ⟨String.toList_inj.mp hchars, hrest⟩

end TrickScore.Json
