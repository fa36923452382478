import TrickScore.Proofs.Sequence.OutOfRange

/-!
# Tokens written among other text

A token may be written with any number of leading zeros, and the tokens of a signature may stand
among any text that holds no whole token of its own. Neither changes what is read. A fragment before
a token cannot run on into it, since a token begins with an action letter and no lexeme holds one
further on; a fragment behind it begins where the token has already ended.

Headlines:
* `Lexeme.scan_among_noise`: the scan finds the lexemes that stand among text without any.
* **`Sequence.parse_written`**: tokens written among such text are read back and scored as they are.
-/

namespace TrickScore

/-- **Lexemes among text without any are found**, all of them and no others. -/
theorem Lexeme.scan_among_noise (lead : List Char) (pieces : List (Lexeme × List Char))
    (hlead : scan lead = []) (hpieces : ∀ p ∈ pieces, p.1.WellFormed ∧ scan p.2 = []) :
    scan (lead ++ pieces.flatMap fun p => p.1.text ++ p.2) = pieces.map Prod.fst := by
  induction pieces generalizing lead with
  | nil => simpa using hlead
  | cons piece pieces ih =>
    obtain ⟨hw, hbehind⟩ := hpieces piece List.mem_cons_self
    -- What follows a lexeme is the lead of the pieces behind it.
    have hrest := ih piece.2 hbehind fun p hp => hpieces p (List.mem_cons_of_mem _ hp)
    rw [List.flatMap_cons, List.append_assoc, scan_append, hlead, scan_text_append hw, hrest]
    · rfl
    · intro c hc
      obtain rfl : piece.1.action = c := Option.some.inj hc
      exact isInner_of_isActionSymbol hw.action

namespace Token

/-- The token as a lexeme, with its count at least `width` digits wide. -/
def written (token : Token) (width : Nat) : Lexeme :=
  ⟨token.action, Decimal.padded width token.count.toNat, token.modifier⟩

theorem Lettered.wellFormed_written {token : Token} (h : token.Lettered) (width : Nat) :
    (token.written width).WellFormed :=
  ⟨isActionSymbol_iff.mpr h.action, Decimal.padded_ne_nil _ _,
    fun _ hc => Decimal.isDigit_of_mem_padded hc, isModifierSymbol_iff.mpr h.modifier⟩

/-- **A written count is read back**, up to the largest. -/
theorem ofLexeme_written (token : Token) (width : Nat) :
    ofLexeme (token.written width) = .ok token := by
  rw [ofLexeme_eq_ok_iff]
  simp only [written, Lexeme.token, Decimal.ofDigits_padded, UInt64.ofNat_toNat]
  exact ⟨token.count.toNat_lt, trivial⟩

/-- Nothing is read from a text iff no lexeme is found in it. -/
theorem scan_eq_ok_nil_iff {text : String} :
    scan text = .ok [] ↔ Lexeme.scan text.toList = [] := by
  rw [scan_eq_ok_iff]
  constructor
  · intro h
    exact List.map_eq_nil_iff.mp h.2
  · intro h
    simp [h]

/-- Nothing is read from a text iff no lexeme begins at any position of it. -/
theorem scan_eq_ok_nil_iff_forall {text : String} :
    scan text = .ok [] ↔
      ∀ i < text.toList.length, Lexeme.first? (text.toList.drop i) = none := by
  rw [scan_eq_ok_nil_iff, Lexeme.scan_eq_filterMap, List.filterMap_eq_nil_iff]
  simp only [List.mem_range]

theorem scan_empty : scan "" = .ok [] :=
  scan_eq_ok_nil_iff.mpr Lexeme.scan_nil

/-- A token in a text: how wide its count is written, and what stands behind it. -/
structure Entry where
  token : Token
  width : Nat
  behind : String

namespace Entry

/-- The token alone, as it is written. -/
def bare (entry : Entry) : String :=
  String.ofList (entry.token.written entry.width).text

/-- The token as it is written and what stands behind it. -/
def text (entry : Entry) : String :=
  entry.bare ++ entry.behind

/-- The token as a lexeme, and the characters behind it. -/
def piece (entry : Entry) : Lexeme × List Char :=
  (entry.token.written entry.width, entry.behind.toList)

/-- The same token with nothing behind it. -/
def alone (entry : Entry) : Entry :=
  { entry with behind := "" }

theorem text_alone (entry : Entry) : entry.alone.text = entry.bare := by
  simp [text, bare, alone]

end Entry

/-- **Tokens written among text without any are read back.** -/
theorem scan_written (lead : String) (entries : List Entry) (hlead : scan lead = .ok [])
    (hentries : ∀ entry ∈ entries, entry.token.Lettered ∧ scan entry.behind = .ok []) :
    scan (lead ++ String.join (entries.map Entry.text)) = .ok (entries.map Entry.token) := by
  have htext : (lead ++ String.join (entries.map Entry.text)).toList =
      lead.toList ++ (entries.map Entry.piece).flatMap fun p => p.1.text ++ p.2 := by
    simp [String.toList_join, List.flatMap_map, Entry.text, Entry.bare, Entry.piece]
  have hscan := Lexeme.scan_among_noise lead.toList (entries.map Entry.piece)
    (scan_eq_ok_nil_iff.mp hlead) ?_
  · rw [scan, htext, hscan, List.map_map, Traversal.mapM_eq_ok_iff, List.forall₂_map_left_iff,
      List.forall₂_map_right_iff, List.forall₂_same]
    exact fun entry _ => ofLexeme_written entry.token entry.width
  · intro p hp
    obtain ⟨entry, hmem, rfl⟩ := List.mem_map.mp hp
    obtain ⟨hletters, hbehind⟩ := hentries entry hmem
    exact ⟨hletters.wellFormed_written _, scan_eq_ok_nil_iff.mp hbehind⟩

/-- Tokens written next to each other are read back. -/
theorem scan_bare (entries : List Entry) (hletters : ∀ entry ∈ entries, entry.token.Lettered) :
    scan (String.join (entries.map Entry.bare)) = .ok (entries.map Entry.token) := by
  have htext : (entries.map Entry.alone).map Entry.text = entries.map Entry.bare := by
    rw [List.map_map]
    exact List.map_congr_left fun entry _ => entry.text_alone
  have htoken : (entries.map Entry.alone).map Entry.token = entries.map Entry.token := by
    rw [List.map_map]
    rfl
  have hwritten := scan_written "" (entries.map Entry.alone) scan_empty ?_
  · rwa [htext, htoken, String.empty_append] at hwritten
  · intro entry hmem
    obtain ⟨original, horiginal, rfl⟩ := List.mem_map.mp hmem
    exact ⟨hletters original horiginal, scan_empty⟩

end Token

namespace Sequence

/-- **Tokens written among text that holds none are read back and scored as they are**, however
their counts are padded, and as if they stood next to each other. -/
theorem parse_written (lead : String) (entries : List Token.Entry)
    (hlead : Token.scan lead = .ok [])
    (hentries : ∀ entry ∈ entries, entry.token.Lettered ∧ Token.scan entry.behind = .ok []) :
    Token.scan (lead ++ String.join (entries.map Token.Entry.text)) =
      .ok (entries.map Token.Entry.token) ∧
    parse (lead ++ String.join (entries.map Token.Entry.text)) =
      ofTokens (entries.map Token.Entry.token) ∧
    parse (lead ++ String.join (entries.map Token.Entry.text)) =
      parse (String.join (entries.map Token.Entry.bare)) := by
  have hscan := Token.scan_written lead entries hlead hentries
  have hbare := Token.scan_bare entries fun entry hmem => (hentries entry hmem).1
  refine ⟨hscan, parse_of_scan_ok hscan, ?_⟩
  rw [parse_of_scan_ok hscan, parse_of_scan_ok hbare]

/-- Fragments that might begin a token or go on with one do neither: `L12` before a token, `7A` and
`LS` behind one, more digits behind the largest count. -/
theorem parse_written_among_fragments :
    Token.scan "L12L007B7A-LSR18446744073709551615A99" =
      .ok [⟨'L', 7, 'B'⟩, ⟨'R', 18446744073709551615, 'A'⟩] ∧
    parse "L12L007B7A-LSR18446744073709551615A99" =
      ofTokens [⟨'L', 7, 'B'⟩, ⟨'R', 18446744073709551615, 'A'⟩] ∧
    parse "L12L007B7A-LSR18446744073709551615A99" = parse "L007BR18446744073709551615A" := by
  have hwritten := parse_written "L12"
    [⟨⟨'L', 7, 'B'⟩, 3, "7A-LS"⟩, ⟨⟨'R', 18446744073709551615, 'A'⟩, 0, "99"⟩]
    (Token.scan_eq_ok_nil_iff_forall.mpr (by decide)) ?_
  · have htext : "L12" ++ String.join (List.map Token.Entry.text
        [⟨⟨'L', 7, 'B'⟩, 3, "7A-LS"⟩, ⟨⟨'R', 18446744073709551615, 'A'⟩, 0, "99"⟩]) =
        "L12L007B7A-LSR18446744073709551615A99" := by decide
    have hbare : String.join (List.map Token.Entry.bare
        [⟨⟨'L', 7, 'B'⟩, 3, "7A-LS"⟩, ⟨⟨'R', 18446744073709551615, 'A'⟩, 0, "99"⟩]) =
        "L007BR18446744073709551615A" := by decide
    rw [htext, hbare] at hwritten
    exact hwritten
  · intro entry hmem
    simp only [List.mem_cons, List.not_mem_nil, or_false] at hmem
    rcases hmem with rfl | rfl
    · exact ⟨by decide, Token.scan_eq_ok_nil_iff_forall.mpr (by decide)⟩
    · exact ⟨by decide, Token.scan_eq_ok_nil_iff_forall.mpr (by decide)⟩

end Sequence

end TrickScore
