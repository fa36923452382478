import TrickScore.Proofs.Sequence.Pointwise
import TrickScore.Proofs.Token.Occurrence

/-!
# Counts out of range

A signature is refused for one reason only: a token of it, whole and anywhere in the text, counts
`2 ^ 64` or more. The tokens that the scan hands on have letters of the grammar, so scoring them
cannot fail.

Headlines:
* `Token.scan_eq_error_iff`: the scan fails at the first lexeme with a count out of range.
* `Sequence.parse_eq_error_iff`: parsing fails exactly as the scan does.
* **`Sequence.parse_refuses_leftmost_oversized`**: the error has the digits of the leftmost
  occurrence with a count out of range, as they were written.
-/

namespace TrickScore

/-- The token grammar occurs from position `i` to position `j` with a count of `2 ^ 64` or more. -/
structure OversizedAt (cs : List Char) (i j : Nat) : Prop where
  occurs : OccursAt cs i j
  count : 2 ^ 64 ≤ Decimal.ofDigits (between cs i j)

/-- A count out of range stands where a lexeme with such a count is found. -/
theorem oversizedAt_iff {cs : List Char} {i j : Nat} :
    OversizedAt cs i j ↔
      ∃ lexeme, (i, lexeme) ∈ Lexeme.found cs ∧ 2 ^ 64 ≤ Decimal.ofDigits lexeme.digits ∧
        j = i + lexeme.digits.length + 1 ∧ between cs i j = lexeme.digits := by
  constructor
  · rintro ⟨hoccurs, hcount⟩
    obtain ⟨lexeme, hw, hstands⟩ := Lexeme.occursAt_iff.mp hoccurs
    obtain rfl := hstands.drop_eq.1
    rw [hstands.digits] at hcount
    exact ⟨lexeme, Lexeme.mem_found_iff_standsAt.mpr ⟨hw, hstands⟩, hcount, rfl, hstands.digits⟩
  · rintro ⟨lexeme, hmem, hcount, rfl, hdigits⟩
    refine ⟨Lexeme.occursAt_iff.mpr ⟨lexeme, Lexeme.mem_found_iff_standsAt.mp hmem⟩, ?_⟩
    rw [hdigits]
    exact hcount

namespace Token

/-- **The scan fails at the first lexeme with a count out of range**, with that lexeme's digits. -/
theorem scan_eq_error_iff {signature : String} {e : TrickError} :
    scan signature = .error e ↔
      ∃ before i lexeme after,
        Lexeme.found signature.toList = before ++ (i, lexeme) :: after ∧
        (∀ x ∈ before, Decimal.ofDigits x.2.digits < 2 ^ 64) ∧
        2 ^ 64 ≤ Decimal.ofDigits lexeme.digits ∧
        e = .countOutOfRange (String.ofList lexeme.digits) := by
  rw [scan, Traversal.mapM_eq_error_iff, Lexeme.scan_eq_map_found]
  constructor
  · rintro ⟨before, lexeme, after, heq, hbefore, hlexeme⟩
    obtain ⟨front, back, hfound, rfl, hback⟩ := List.map_eq_append_iff.mp heq
    obtain ⟨⟨i, _⟩, more, rfl, rfl, -⟩ := List.map_eq_cons_iff.mp hback
    refine ⟨front, i, _, more, hfound, fun x hx => ?_, ofLexeme_eq_error_iff.mp hlexeme⟩
    exact exists_ofLexeme_iff.mp (hbefore _ (List.mem_map_of_mem hx))
  · rintro ⟨before, i, lexeme, after, hfound, hbefore, hcount, he⟩
    refine ⟨before.map Prod.snd, lexeme, after.map Prod.snd, ?_, fun l hl => ?_,
      ofLexeme_eq_error_iff.mpr ⟨hcount, he⟩⟩
    · rw [hfound]
      simp
    · obtain ⟨x, hx, rfl⟩ := List.mem_map.mp hl
      exact exists_ofLexeme_iff.mpr (hbefore x hx)

/-- **The scan fails at the leftmost occurrence with a count out of range.** -/
theorem scan_eq_error_iff_leftmost {signature : String} {e : TrickError} :
    scan signature = .error e ↔
      ∃ i j, OversizedAt signature.toList i j ∧
        (∀ i' j', OversizedAt signature.toList i' j' → i ≤ i') ∧
        e = .countOutOfRange (String.ofList (between signature.toList i j)) := by
  rw [scan_eq_error_iff]
  constructor
  · rintro ⟨before, i, lexeme, after, hfound, hbefore, hcount, rfl⟩
    have hmem : (i, lexeme) ∈ Lexeme.found signature.toList := by
      rw [hfound]
      exact List.mem_append_right _ List.mem_cons_self
    have hdigits := (Lexeme.mem_found_iff_standsAt.mp hmem).2.digits
    refine ⟨i, _, oversizedAt_iff.mpr ⟨lexeme, hmem, hcount, rfl, hdigits⟩, ?_, by rw [hdigits]⟩
    intro i' j' hover
    obtain ⟨other, hother, hcount', -⟩ := oversizedAt_iff.mp hover
    rw [hfound] at hother
    rcases List.mem_append.mp hother with hother | hother
    · exact absurd (hbefore _ hother) (Nat.not_lt.mpr hcount')
    · rcases List.mem_cons.mp hother with heq | hother
      · exact Nat.le_of_eq (congrArg Prod.fst heq).symm
      · exact Nat.le_of_lt ((Lexeme.lt_of_found_eq hfound).2 _ hother)
  · rintro ⟨i, j, hover, hleast, rfl⟩
    obtain ⟨lexeme, hmem, hcount, -, hdigits⟩ := oversizedAt_iff.mp hover
    obtain ⟨before, after, hfound⟩ := List.append_of_mem hmem
    refine ⟨before, i, lexeme, after, hfound, fun x hx => ?_, hcount, by rw [hdigits]⟩
    -- A count out of range further left would be an occurrence before the leftmost.
    by_contra hge
    have hx' : (x.1, x.2) ∈ Lexeme.found signature.toList := by
      rw [hfound]
      exact List.mem_append_left _ hx
    have hle := hleast x.1 _ (oversizedAt_iff.mpr ⟨x.2, hx', Nat.le_of_not_lt hge, rfl,
      (Lexeme.mem_found_iff_standsAt.mp hx').2.digits⟩)
    exact absurd hle (Nat.not_le.mpr ((Lexeme.lt_of_found_eq hfound).1 x hx))

/-- A text is scanned unless a count out of range occurs in it. -/
theorem exists_scan_iff {signature : String} :
    (∃ tokens, scan signature = .ok tokens) ↔
      ∀ i j, ¬ OversizedAt signature.toList i j := by
  simp only [scan_eq_ok_iff, exists_and_left, exists_eq', and_true, Lexeme.scan_eq_map_found,
    List.forall_mem_map]
  constructor
  · intro h i j hover
    obtain ⟨lexeme, hmem, hcount, -⟩ := oversizedAt_iff.mp hover
    exact absurd (h _ hmem) (Nat.not_lt.mpr hcount)
  · rintro h ⟨i, lexeme⟩ hmem
    by_contra hge
    exact h i _ (oversizedAt_iff.mpr ⟨lexeme, hmem, Nat.le_of_not_lt hge, rfl,
      (Lexeme.mem_found_iff_standsAt.mp hmem).2.digits⟩)

/-- The tokens that are scanned have letters of the grammar. -/
theorem lettered_of_scan {signature : String} {tokens : List Token}
    (h : scan signature = .ok tokens) : ∀ token ∈ tokens, token.Lettered := by
  obtain ⟨-, rfl⟩ := scan_eq_ok_iff.mp h
  intro token hmem
  obtain ⟨lexeme, hl, rfl⟩ := List.mem_map.mp hmem
  have hw := Lexeme.wellFormed_of_mem_scan hl
  exact ⟨isActionSymbol_iff.mp hw.action, isModifierSymbol_iff.mp hw.modifier⟩

end Token

namespace Sequence

theorem parse_of_scan_error {signature : String} {e : TrickError}
    (h : Token.scan signature = .error e) : parse signature = .error e := by
  rw [parse, h]
  rfl

theorem parse_of_scan_ok {signature : String} {tokens : List Token}
    (h : Token.scan signature = .ok tokens) : parse signature = ofTokens tokens := by
  rw [parse, h]
  rfl

/-- What is scored has been scanned. -/
theorem exists_scan_of_parse {signature : String} {sequence : Sequence}
    (h : parse signature = .ok sequence) :
    ∃ tokens, Token.scan signature = .ok tokens ∧ ofTokens tokens = .ok sequence := by
  cases hscan : Token.scan signature with
  | error e =>
    rw [parse_of_scan_error hscan] at h
    cases h
  | ok tokens => exact ⟨tokens, rfl, (parse_of_scan_ok hscan).symm.trans h⟩

/-- A text that can be scanned can be scored. -/
theorem exists_parse_of_scan_ok {signature : String} {tokens : List Token}
    (h : Token.scan signature = .ok tokens) : ∃ sequence, parse signature = .ok sequence := by
  rw [parse_of_scan_ok h]
  exact exists_ofTokens_iff.mpr (Token.lettered_of_scan h)

/-- **Parsing fails exactly as the scan does.** -/
theorem parse_eq_error_iff {signature : String} {e : TrickError} :
    parse signature = .error e ↔ Token.scan signature = .error e := by
  cases h : Token.scan signature with
  | error e' => rw [parse_of_scan_error h]; simp
  | ok tokens =>
    obtain ⟨sequence, hs⟩ := exists_parse_of_scan_ok h
    rw [hs]
    simp

/-- Parsing fails at the leftmost occurrence with a count out of range. -/
theorem parse_eq_error_iff_leftmost {signature : String} {e : TrickError} :
    parse signature = .error e ↔
      ∃ i j, OversizedAt signature.toList i j ∧
        (∀ i' j', OversizedAt signature.toList i' j' → i ≤ i') ∧
        e = .countOutOfRange (String.ofList (between signature.toList i j)) :=
  parse_eq_error_iff.trans Token.scan_eq_error_iff_leftmost

/-- A signature is scored iff no count out of range occurs in it. -/
theorem exists_parse_iff {signature : String} :
    (∃ sequence, parse signature = .ok sequence) ↔ ∀ i j, ¬ OversizedAt signature.toList i j := by
  rw [← Token.exists_scan_iff]
  constructor
  · rintro ⟨sequence, h⟩
    obtain ⟨tokens, hscan, -⟩ := exists_scan_of_parse h
    exact ⟨tokens, hscan⟩
  · rintro ⟨tokens, hscan⟩
    exact exists_parse_of_scan_ok hscan

/-- **A signature is refused iff a count out of range occurs in it**, and then for the leftmost
such count, with its digits as they were written. It is never refused for a letter. Counts below
`2 ^ 64`, however long they are written, and digits that belong to no token refuse nothing. -/
theorem parse_refuses_leftmost_oversized (signature : String) :
    ((∃ e, parse signature = .error e) ↔ ∃ i j, OversizedAt signature.toList i j) ∧
    (∀ e, parse signature = .error e ↔
      ∃ i j, OversizedAt signature.toList i j ∧
        (∀ i' j', OversizedAt signature.toList i' j' → i ≤ i') ∧
        e = .countOutOfRange (String.ofList (between signature.toList i j))) ∧
    (∀ role symbol, parse signature ≠ .error (.unrecognizedSymbol role symbol)) ∧
    ((∀ i j, OccursAt signature.toList i j →
        Decimal.ofDigits (between signature.toList i j) ≤ 2 ^ 64 - 1) →
      ∃ sequence, parse signature = .ok sequence) := by
  have hleftmost : ∀ e, parse signature = .error e ↔ _ := fun e =>
    parse_eq_error_iff.trans Token.scan_eq_error_iff_leftmost
  refine ⟨⟨?_, ?_⟩, hleftmost, fun role symbol h => ?_, fun h => ?_⟩
  · rintro ⟨e, h⟩
    obtain ⟨i, j, hover, -⟩ := (hleftmost e).mp h
    exact ⟨i, j, hover⟩
  · rintro ⟨i, j, hover⟩
    cases hscan : Token.scan signature with
    | error e => exact ⟨e, parse_of_scan_error hscan⟩
    | ok tokens => exact absurd hover (Token.exists_scan_iff.mp ⟨tokens, hscan⟩ i j)
  · obtain ⟨i, j, -, -, he⟩ := (hleftmost _).mp h
    cases he
  · have hnone : ∀ i j, ¬ OversizedAt signature.toList i j := by
      intro i j hover
      have hle := h i j hover.occurs
      have hge := hover.count
      omega
    obtain ⟨tokens, hscan⟩ := Token.exists_scan_iff.mpr hnone
    exact exists_parse_of_scan_ok hscan

/-- The first run of digits belongs to no token, and the last stands further right. -/
example : parse "L99999999999999999999-R0018446744073709551616A S36893488147419103232B" =
    .error (.countOutOfRange "0018446744073709551616") := by
  rw [parse, Token.scan, Lexeme.scan_eq_filterMap]
  rfl

end Sequence

end TrickScore
