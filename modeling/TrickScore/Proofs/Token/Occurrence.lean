import TrickScore.Proofs.Token.Scan
import TrickScore.Proofs.Traversal

/-!
# Where the token grammar occurs in a text

An occurrence is a pair of positions with an action letter at the first, a modifier letter at the
last and nothing but digits between, at least one. That is said of the characters alone, without a
reader or a scan.

`Lexeme.found` lists the lexemes of a text with the positions at which they begin. It ties the two
together: its positions are those of the occurrences, its lexemes those that the scan takes.

Headlines:
* `Lexeme.mem_found_iff_standsAt`: a lexeme is found exactly where it stands in the text.
* `Token.scan_eq_ok_iff`: a text is scanned iff no count that the scan takes is out of range.
* **`Token.scan_finds_every_occurrence`**: where no count is out of range, the tokens are those of
  all occurrences, in the order in which they begin.
-/

namespace TrickScore

/-- The characters strictly between two positions. -/
def between (cs : List Char) (i j : Nat) : List Char :=
  cs.extract (i + 1) j

/-- The token grammar occurs in the characters, from position `i` to position `j`. -/
structure OccursAt (cs : List Char) (i j : Nat) : Prop where
  lt : i < j
  action : ∃ c ∈ ['L', 'H', 'R', 'S', 'T'], cs[i]? = some c
  digits_ne_nil : between cs i j ≠ []
  digits : ∀ c ∈ between cs i j, c.isDigit = true
  modifier : ∃ c ∈ ['A', 'B', 'C', 'D', 'E'], cs[j]? = some c

namespace Lexeme

/-! ## Lexemes at positions -/

/-- The lexeme is what the characters hold from position `i` to position `j`. -/
structure StandsAt (lexeme : Lexeme) (cs : List Char) (i j : Nat) : Prop where
  lt : i < j
  action : cs[i]? = some lexeme.action
  digits : between cs i j = lexeme.digits
  modifier : cs[j]? = some lexeme.modifier

/-- **The grammar occurs where one of its lexemes stands.** -/
theorem occursAt_iff {cs : List Char} {i j : Nat} :
    OccursAt cs i j ↔ ∃ lexeme : Lexeme, lexeme.WellFormed ∧ lexeme.StandsAt cs i j := by
  constructor
  · rintro ⟨hlt, ⟨a, ha, hi⟩, hne, hdigits, m, hm, hj⟩
    exact ⟨⟨a, between cs i j, m⟩,
      ⟨isActionSymbol_iff.mpr ha, hne, hdigits, isModifierSymbol_iff.mpr hm⟩, hlt, hi, rfl, hj⟩
  · rintro ⟨lexeme, hw, hlt, hi, hdigits, hj⟩
    exact ⟨hlt, ⟨_, isActionSymbol_iff.mp hw.action, hi⟩, hdigits ▸ hw.digits_ne_nil,
      hdigits ▸ hw.digits, _, isModifierSymbol_iff.mp hw.modifier, hj⟩

/-- A lexeme in front of the characters stands at their start. -/
theorem standsAt_of_drop {lexeme : Lexeme} {cs rest : List Char} {i : Nat}
    (h : cs.drop i = lexeme.text ++ rest) :
    lexeme.StandsAt cs i (i + lexeme.digits.length + 1) := by
  have hnext : cs.drop (i + 1) = lexeme.digits ++ lexeme.modifier :: rest := by
    rw [← List.drop_drop, h]
    simp [text]
  refine ⟨by omega, ?_, ?_, ?_⟩
  · have hget : cs[i]? = (cs.drop i)[0]? := by rw [List.getElem?_drop]; rfl
    rw [hget, h]
    rfl
  · have hcount : i + lexeme.digits.length + 1 - (i + 1) = lexeme.digits.length := by omega
    rw [between, List.extract_eq_take_drop, hnext, hcount]
    simp
  · have hget : cs[i + lexeme.digits.length + 1]? = (cs.drop (i + 1))[lexeme.digits.length]? := by
      rw [List.getElem?_drop]
      congr 1
      omega
    rw [hget, hnext]
    simp

/-- What stands in the characters begins their rest from there. -/
theorem StandsAt.drop_eq {lexeme : Lexeme} {cs : List Char} {i j : Nat}
    (h : lexeme.StandsAt cs i j) :
    j = i + lexeme.digits.length + 1 ∧ cs.drop i = lexeme.text ++ cs.drop (j + 1) := by
  obtain ⟨hi, hgeti⟩ := List.getElem?_eq_some_iff.mp h.action
  obtain ⟨hj, hgetj⟩ := List.getElem?_eq_some_iff.mp h.modifier
  have hlt := h.lt
  have hdigits : (cs.drop (i + 1)).take (j - (i + 1)) = lexeme.digits := by
    rw [← List.extract_eq_take_drop]
    exact h.digits
  have hlength : lexeme.digits.length = j - (i + 1) := by
    rw [← hdigits, List.length_take, List.length_drop]
    omega
  refine ⟨by omega, ?_⟩
  have hsplit := List.take_append_drop (j - (i + 1)) (cs.drop (i + 1))
  rw [hdigits, List.drop_drop, show i + 1 + (j - (i + 1)) = j by omega,
    List.drop_eq_getElem_cons hj, hgetj] at hsplit
  rw [List.drop_eq_getElem_cons hi, hgeti, ← hsplit]
  simp [text]

/-! ## The lexemes of a text with their positions -/

/-- The lexemes of a text, each with the position of its action letter. -/
def found (cs : List Char) : List (Nat × Lexeme) :=
  (List.range cs.length).filterMap fun i => (first? (cs.drop i)).map (i, ·)

/-- The positions of a lexeme that begins at a given one. -/
def place (start : Nat) (lexeme : Lexeme) : Nat × Nat :=
  (start, start + lexeme.digits.length + 1)

/-- The scan takes what is found. -/
theorem scan_eq_map_found (cs : List Char) : scan cs = (found cs).map Prod.snd := by
  rw [scan_eq_filterMap, found, List.map_filterMap]
  congr 1
  funext i
  cases first? (cs.drop i) <;> rfl

theorem mem_found_iff {cs : List Char} {i : Nat} {lexeme : Lexeme} :
    (i, lexeme) ∈ found cs ↔ first? (cs.drop i) = some lexeme := by
  unfold found
  rw [List.mem_filterMap]
  constructor
  · rintro ⟨k, -, hk⟩
    obtain ⟨l, hl, heq⟩ := Option.map_eq_some_iff.mp hk
    cases heq
    exact hl
  · intro h
    refine ⟨i, List.mem_range.mpr ?_, by rw [h]; rfl⟩
    by_contra hge
    rw [List.drop_eq_nil_of_le (Nat.le_of_not_lt hge)] at h
    cases h

/-- **A lexeme is found exactly where it stands in the text.** -/
theorem mem_found_iff_standsAt {cs : List Char} {i : Nat} {lexeme : Lexeme} :
    (i, lexeme) ∈ found cs ↔
      lexeme.WellFormed ∧ lexeme.StandsAt cs i (i + lexeme.digits.length + 1) := by
  rw [mem_found_iff, first?_eq_some_iff]
  refine and_congr_right fun _ => ⟨?_, ?_⟩
  · rintro ⟨rest, h⟩
    exact standsAt_of_drop h
  · intro h
    exact ⟨_, h.drop_eq.2⟩

/-- The places of what is found are those at which the grammar occurs. -/
theorem mem_places_iff {cs : List Char} {i j : Nat} :
    (i, j) ∈ (found cs).map (fun x => place x.1 x.2) ↔ OccursAt cs i j := by
  rw [List.mem_map, occursAt_iff]
  constructor
  · rintro ⟨⟨k, lexeme⟩, hmem, hplace⟩
    cases hplace
    exact ⟨lexeme, mem_found_iff_standsAt.mp hmem⟩
  · rintro ⟨lexeme, hw, h⟩
    have hj := h.drop_eq.1
    subst hj
    exact ⟨(i, lexeme), mem_found_iff_standsAt.mpr ⟨hw, h⟩, rfl⟩

/-- What stands between the ends of an occurrence are the digits of a lexeme that the scan takes. -/
theorem exists_mem_scan_of_occursAt {cs : List Char} {i j : Nat} (h : OccursAt cs i j) :
    ∃ lexeme ∈ scan cs, between cs i j = lexeme.digits := by
  obtain ⟨lexeme, hw, hstands⟩ := occursAt_iff.mp h
  obtain rfl := hstands.drop_eq.1
  refine ⟨lexeme, ?_, hstands.digits⟩
  rw [scan_eq_map_found]
  exact List.mem_map_of_mem (mem_found_iff_standsAt.mpr ⟨hw, hstands⟩)

/-- What is found is in the order in which it begins, and nothing is found twice. -/
theorem pairwise_found (cs : List Char) : (found cs).Pairwise fun x y => x.1 < y.1 := by
  refine List.Pairwise.filterMap _ (fun i k hik x hx y hy => ?_) List.pairwise_lt_range
  obtain ⟨l, -, rfl⟩ := Option.map_eq_some_iff.mp hx
  obtain ⟨m, -, rfl⟩ := Option.map_eq_some_iff.mp hy
  exact hik

/-- What is found before a lexeme begins before it, and what is found behind it begins later. -/
theorem lt_of_found_eq {cs : List Char} {before after : List (Nat × Lexeme)} {i : Nat}
    {lexeme : Lexeme} (h : found cs = before ++ (i, lexeme) :: after) :
    (∀ x ∈ before, x.1 < i) ∧ ∀ x ∈ after, i < x.1 := by
  have hsorted := pairwise_found cs
  rw [h, List.pairwise_append, List.pairwise_cons] at hsorted
  obtain ⟨-, ⟨hafter, -⟩, hbefore⟩ := hsorted
  exact ⟨fun x hx => hbefore x hx _ List.mem_cons_self, hafter⟩

end Lexeme

/-! ## Tokens -/

/-- The token of a lexeme whose count is in range. -/
def Lexeme.token (lexeme : Lexeme) : Token :=
  ⟨lexeme.action, UInt64.ofNat (Decimal.ofDigits lexeme.digits), lexeme.modifier⟩

namespace Token

theorem ofLexeme_eq_ok_iff {lexeme : Lexeme} {token : Token} :
    ofLexeme lexeme = .ok token ↔
      Decimal.ofDigits lexeme.digits < 2 ^ 64 ∧ lexeme.token = token := by
  unfold ofLexeme
  dsimp only
  split
  · rename_i h
    exact ⟨fun hok => ⟨h, Except.ok.inj hok⟩, fun hok => congrArg Except.ok hok.2⟩
  · rename_i h
    constructor
    · intro hok
      cases hok
    · intro hok
      exact absurd hok.1 h

theorem exists_ofLexeme_iff {lexeme : Lexeme} :
    (∃ token, ofLexeme lexeme = .ok token) ↔ Decimal.ofDigits lexeme.digits < 2 ^ 64 := by
  simp only [ofLexeme_eq_ok_iff, exists_and_left, exists_eq', and_true]

/-- **A text is scanned iff no count that the scan takes is out of range.** -/
theorem scan_eq_ok_iff {signature : String} {tokens : List Token} :
    scan signature = .ok tokens ↔
      (∀ lexeme ∈ Lexeme.scan signature.toList, Decimal.ofDigits lexeme.digits < 2 ^ 64) ∧
        (Lexeme.scan signature.toList).map Lexeme.token = tokens := by
  simp only [scan, Traversal.mapM_eq_ok_iff, ofLexeme_eq_ok_iff]
  rw [List.forall₂_and_left, ← List.forall₂_map_left_iff, List.forall₂_eq_eq_eq]

/-- The token is what the characters say from position `i` to position `j`: its letters are the
ends, its count is the number between. -/
structure ReadAt (token : Token) (cs : List Char) (i j : Nat) : Prop where
  action : cs[i]? = some token.action
  count : token.count.toNat = Decimal.ofDigits (between cs i j)
  modifier : cs[j]? = some token.modifier

theorem readAt_of_standsAt {lexeme : Lexeme} {cs : List Char} {i j : Nat}
    (h : lexeme.StandsAt cs i j) (hcount : Decimal.ofDigits lexeme.digits < 2 ^ 64) :
    lexeme.token.ReadAt cs i j := by
  refine ⟨h.action, ?_, h.modifier⟩
  rw [h.digits]
  exact UInt64.toNat_ofNat_of_lt' hcount

/-- **The scan finds every occurrence of the grammar.** Where no count is out of range, its tokens
are those of all the places at which the grammar occurs, in the order in which they begin, and of
no others. -/
theorem scan_finds_every_occurrence (signature : String)
    (hcounts : ∀ i j, OccursAt signature.toList i j →
      Decimal.ofDigits (between signature.toList i j) < 2 ^ 64) :
    ∃ (places : List (Nat × Nat)) (tokens : List Token),
      scan signature = .ok tokens ∧
      places.Pairwise (fun p q => p.1 < q.1) ∧
      (∀ i j, (i, j) ∈ places ↔ OccursAt signature.toList i j) ∧
      List.Forall₂ (fun p token => token.ReadAt signature.toList p.1 p.2) places tokens := by
  have hfound : ∀ x ∈ Lexeme.found signature.toList,
      x.2.StandsAt signature.toList x.1 (x.1 + x.2.digits.length + 1) ∧
        Decimal.ofDigits x.2.digits < 2 ^ 64 := by
    rintro ⟨i, lexeme⟩ hmem
    obtain ⟨hw, hstands⟩ := Lexeme.mem_found_iff_standsAt.mp hmem
    have hsmall := hcounts _ _ (Lexeme.occursAt_iff.mpr ⟨lexeme, hw, hstands⟩)
    rw [hstands.digits] at hsmall
    exact ⟨hstands, hsmall⟩
  refine ⟨(Lexeme.found signature.toList).map fun x => Lexeme.place x.1 x.2,
    (Lexeme.scan signature.toList).map Lexeme.token, ?_, ?_, ?_, ?_⟩
  · refine scan_eq_ok_iff.mpr ⟨fun lexeme hmem => ?_, rfl⟩
    rw [Lexeme.scan_eq_map_found] at hmem
    obtain ⟨x, hx, rfl⟩ := List.mem_map.mp hmem
    exact (hfound x hx).2
  · rw [List.pairwise_map]
    exact Lexeme.pairwise_found _
  · intro i j
    exact Lexeme.mem_places_iff
  · rw [Lexeme.scan_eq_map_found, List.map_map, List.forall₂_map_left_iff,
      List.forall₂_map_right_iff, List.forall₂_same]
    exact fun x hx => readAt_of_standsAt (hfound x hx).1 (hfound x hx).2

/-- Fragments of tokens stand before, between and behind two whole ones. -/
theorem scan_finds_every_occurrence_among_fragments :
    ∃ (places : List (Nat × Nat)) (tokens : List Token),
      scan "LL1L-L٤B1A12AR007BB5ES3D" = .ok tokens ∧
      places.Pairwise (fun p q => p.1 < q.1) ∧
      (∀ i j, (i, j) ∈ places ↔ OccursAt "LL1L-L٤B1A12AR007BB5ES3D".toList i j) ∧
      List.Forall₂ (fun p token => token.ReadAt "LL1L-L٤B1A12AR007BB5ES3D".toList p.1 p.2)
        places tokens := by
  have hscan : Lexeme.scan "LL1L-L٤B1A12AR007BB5ES3D".toList =
      [⟨'R', ['0', '0', '7'], 'B'⟩, ⟨'S', ['3'], 'D'⟩] := by
    rw [Lexeme.scan_eq_filterMap]
    rfl
  refine scan_finds_every_occurrence _ fun i j h => ?_
  obtain ⟨lexeme, hmem, hdigits⟩ := Lexeme.exists_mem_scan_of_occursAt h
  rw [hscan] at hmem
  rw [hdigits]
  simp only [List.mem_cons, List.not_mem_nil, or_false] at hmem
  rcases hmem with rfl | rfl <;> decide

example : scan "LL1L-L٤B1A12AR007BB5ES3D" = .ok [⟨'R', 7, 'B'⟩, ⟨'S', 3, 'D'⟩] := by
  rw [scan, Lexeme.scan_eq_filterMap]
  rfl

end Token

end TrickScore
