import TrickScore.Proofs.Token.Occurrence

/-!
# Cutting a text in two

The scan of a text that is cut in two takes what it takes in each part, and one lexeme more at most:
one that begins before the cut and ends behind it. Only digits stand between its action letter and
the cut, and between the cut and its modifier letter. So the scan of the first part takes nothing
from that letter on, and the scan of the second part skips the digits and the modifier letter.

Headlines:
* `Straddle.Over.scan_eq`: a lexeme over the cut is found between those of the two parts.
* `Lexeme.scan_eq_append_of_not_over`: where there is none, the scan splits at the cut.
* **`Token.scan_cut`**: the tokens of a text that is cut in two.
-/

namespace TrickScore

/-! ## Lexemes over a cut -/

/-- What a cut leaves of a token: its action letter and digits before the cut, digits and its
modifier letter behind it. -/
structure Straddle where
  action : Char
  before : List Char
  behind : List Char
  modifier : Char

/-- **The first text ends with an action letter and digits, the second begins with digits and a
modifier letter.** There is a digit on one side at least. -/
structure Straddle.Over (straddle : Straddle) (cs ds : List Char) : Prop where
  action : straddle.action ∈ ['L', 'H', 'R', 'S', 'T']
  before : ∀ c ∈ straddle.before, c.isDigit = true
  behind : ∀ c ∈ straddle.behind, c.isDigit = true
  digits_ne_nil : straddle.before ++ straddle.behind ≠ []
  modifier : straddle.modifier ∈ ['A', 'B', 'C', 'D', 'E']
  ends : straddle.action :: straddle.before <:+ cs
  begins : straddle.behind ++ [straddle.modifier] <+: ds

namespace Lexeme

/-- An action letter and digits are not a whole lexeme. -/
theorem scan_cons_of_isDigit (c : Char) {run : List Char} (h : ∀ d ∈ run, d.isDigit = true) :
    scan (c :: run) = [] := by
  have hfirst : first? (c :: run) = none := by
    rw [Option.eq_none_iff_forall_ne_some]
    intro lexeme hl
    obtain ⟨hw, rest, hcs⟩ := first?_eq_some_iff.mp hl
    have hrun : run = lexeme.digits ++ [lexeme.modifier] ++ rest := (List.cons.inj hcs).2
    have hdigit := h lexeme.modifier (by simp [hrun])
    rw [isDigit_of_isModifierSymbol hw.modifier] at hdigit
    cases hdigit
  have hinner : ∀ d ∈ run, isActionSymbol d = false := fun d hd =>
    isActionSymbol_of_isInner (by simp [isInner, h d hd])
  have hskip := scan_append_of_not_action hinner []
  rw [List.append_nil, scan_nil] at hskip
  rw [scan_cons, hfirst, hskip]
  rfl

end Lexeme

namespace Straddle

/-- Both sides of the cut together. -/
def lexeme (straddle : Straddle) : Lexeme :=
  ⟨straddle.action, straddle.before ++ straddle.behind, straddle.modifier⟩

theorem Over.wellFormed {straddle : Straddle} {cs ds : List Char} (h : straddle.Over cs ds) :
    straddle.lexeme.WellFormed :=
  ⟨isActionSymbol_iff.mpr h.action, h.digits_ne_nil,
    List.forall_mem_append.mpr ⟨h.before, h.behind⟩, isModifierSymbol_iff.mpr h.modifier⟩

/-- **A lexeme over the cut is found between those of the two parts.** -/
theorem Over.scan_eq {straddle : Straddle} {cs ds : List Char} (h : straddle.Over cs ds) :
    Lexeme.scan (cs ++ ds) = Lexeme.scan cs ++ straddle.lexeme :: Lexeme.scan ds := by
  obtain ⟨front, rfl⟩ := h.ends
  obtain ⟨back, rfl⟩ := h.begins
  have hw := h.wellFormed
  -- The letter stands in no lexeme before it, so what is before it is scanned on its own.
  have hfront : ∀ more, Lexeme.scan (front ++ straddle.action :: more) =
      Lexeme.scan front ++ Lexeme.scan (straddle.action :: more) := by
    intro more
    refine Lexeme.scan_append (fun c hc => ?_) front
    obtain rfl : straddle.action = c := Option.some.inj hc
    exact Lexeme.isInner_of_isActionSymbol hw.action
  have hback : Lexeme.scan (straddle.behind ++ [straddle.modifier] ++ back) = Lexeme.scan back := by
    refine Lexeme.scan_append_of_not_action (fun c hc => ?_) back
    refine Lexeme.isActionSymbol_of_isInner (hw.isInner_of_mem ?_)
    simp only [lexeme, List.append_assoc]
    exact List.mem_append_right _ hc
  have htext : front ++ straddle.action :: straddle.before ++
      (straddle.behind ++ [straddle.modifier] ++ back) =
        front ++ straddle.action :: (straddle.before ++ straddle.behind ++
          straddle.modifier :: back) := by
    simp
  rw [htext, hfront, hfront, hback, Lexeme.scan_cons_of_isDigit _ h.before, List.append_nil]
  exact congrArg _ (by simpa [Lexeme.text, lexeme] using Lexeme.scan_text_append hw back)

end Straddle

namespace Lexeme

/-- A lexeme that begins a text and goes on beyond a cut lies over the cut. -/
theorem first?_append_of_not_over {c : Char} {cs ds : List Char}
    (h : ∀ straddle : Straddle, ¬ straddle.Over (c :: cs) ds) :
    first? (c :: cs ++ ds) = first? (c :: cs) := by
  ext lexeme
  rw [first?_eq_some_iff, first?_eq_some_iff]
  refine and_congr_right fun hw => ⟨?_, ?_⟩
  · rintro ⟨rest, htext⟩
    rcases List.append_eq_append_iff.mp htext with ⟨crossed, hlexeme, hds⟩ | ⟨crossed, hcs, -⟩
    · rcases List.eq_nil_or_concat crossed with rfl | ⟨behind, modifier, rfl⟩
      · exact ⟨[], by simpa using hlexeme.symm⟩
      · -- The modifier letter is the last of what stands behind the cut.
        obtain ⟨action, digits, last⟩ := lexeme
        have hsplit : action = c ∧ digits = cs ++ behind ∧ last = modifier := by
          simp only [text, List.concat_eq_append, List.cons_append, List.cons.injEq,
            ← List.append_assoc] at hlexeme
          exact ⟨hlexeme.1, List.append_inj_left' hlexeme.2 rfl,
            (List.cons.inj (List.append_inj_right' hlexeme.2 rfl)).1⟩
        obtain ⟨rfl, rfl, rfl⟩ := hsplit
        obtain ⟨hbefore, hbehind⟩ := List.forall_mem_append.mp hw.digits
        refine absurd ?_ (h ⟨action, cs, behind, last⟩)
        exact ⟨isActionSymbol_iff.mp hw.action, hbefore, hbehind, hw.digits_ne_nil,
          isModifierSymbol_iff.mp hw.modifier, List.suffix_refl _,
          ⟨rest, by simpa using hds.symm⟩⟩
    · exact ⟨crossed, hcs⟩
  · rintro ⟨rest, hcs⟩
    exact ⟨rest ++ ds, by rw [hcs, List.append_assoc]⟩

/-- **Where no lexeme lies over the cut, the scan splits there.** -/
theorem scan_eq_append_of_not_over {cs ds : List Char}
    (h : ∀ straddle : Straddle, ¬ straddle.Over cs ds) : scan (cs ++ ds) = scan cs ++ scan ds := by
  induction cs with
  | nil => rw [scan_nil]; rfl
  | cons c cs ih =>
    have hrest := ih fun straddle hover =>
      h straddle { hover with ends := hover.ends.trans (List.suffix_cons c cs) }
    have hfirst := first?_append_of_not_over h
    rw [List.cons_append, scan_cons, hrest, ← List.cons_append, hfirst, scan_cons c cs,
      List.append_assoc]

/-- Each part is scanned as if the other were not there, whatever lies over the cut. -/
theorem exists_scan_append_eq (cs ds : List Char) :
    ∃ middle, scan (cs ++ ds) = scan cs ++ (middle ++ scan ds) := by
  by_cases hover : ∃ straddle : Straddle, straddle.Over cs ds
  · obtain ⟨straddle, hover⟩ := hover
    exact ⟨[straddle.lexeme], hover.scan_eq⟩
  · exact ⟨[], scan_eq_append_of_not_over (not_exists.mp hover)⟩

end Lexeme

/-! ## Tokens -/

namespace Token

/-- **A text that is cut in two has the tokens of both parts and at most one more.** If the text
can be scanned, so can its parts. If the first part ends with an action letter and digits and the
second begins with digits and a modifier letter, these make one token together, which stands
between the others. Otherwise there are no others. -/
theorem scan_cut {a b : String} {tokens : List Token} (h : scan (a ++ b) = .ok tokens) :
    ∃ first second, scan a = .ok first ∧ scan b = .ok second ∧
      (∀ straddle : Straddle, straddle.Over a.toList b.toList →
        ∃ token : Token, tokens = first ++ token :: second ∧
          token.action = straddle.action ∧
          token.count.toNat = Decimal.ofDigits (straddle.before ++ straddle.behind) ∧
          token.modifier = straddle.modifier) ∧
      ((∀ straddle : Straddle, ¬ straddle.Over a.toList b.toList) → tokens = first ++ second) := by
  obtain ⟨hcounts, rfl⟩ := scan_eq_ok_iff.mp h
  rw [String.toList_append] at hcounts ⊢
  obtain ⟨middle, hscan⟩ := Lexeme.exists_scan_append_eq a.toList b.toList
  have hparts := hcounts
  rw [hscan, List.forall_mem_append, List.forall_mem_append] at hparts
  obtain ⟨hfirst, -, hsecond⟩ := hparts
  refine ⟨(Lexeme.scan a.toList).map Lexeme.token, (Lexeme.scan b.toList).map Lexeme.token,
    scan_eq_ok_iff.mpr ⟨hfirst, rfl⟩, scan_eq_ok_iff.mpr ⟨hsecond, rfl⟩,
    fun straddle hover => ?_, fun hnone => ?_⟩
  · rw [hover.scan_eq] at hcounts ⊢
    have hcount := hcounts straddle.lexeme (by simp)
    exact ⟨straddle.lexeme.token, by simp, rfl, UInt64.toNat_ofNat_of_lt' hcount, rfl⟩
  · rw [Lexeme.scan_eq_append_of_not_over hnone, List.map_append]

/-- A cut between the digits of a count, with other tokens and a fragment on both sides. -/
theorem scan_cut_withinDigits :
    ∃ first second, scan "L1AS2R0" = .ok first ∧ scan "07BBT3D" = .ok second ∧
      ∃ token : Token, [⟨'L', 1, 'A'⟩, ⟨'R', 7, 'B'⟩, ⟨'T', 3, 'D'⟩] = first ++ token :: second ∧
        token.action = 'R' ∧ token.count.toNat = 7 ∧ token.modifier = 'B' := by
  have hscan : scan ("L1AS2R0" ++ "07BBT3D") =
      .ok [⟨'L', 1, 'A'⟩, ⟨'R', 7, 'B'⟩, ⟨'T', 3, 'D'⟩] := by
    rw [scan, Lexeme.scan_eq_filterMap]
    rfl
  obtain ⟨first, second, hfirst, hsecond, hover, -⟩ := scan_cut hscan
  refine ⟨first, second, hfirst, hsecond, hover ⟨'R', ['0'], ['0', '7'], 'B'⟩ ?_⟩
  exact ⟨by decide, by simp, by simp, by decide, by decide, by decide, by decide⟩

end Token

end TrickScore
