import Mathlib.Data.List.Basic
import Mathlib.Tactic.FinCases
import TrickScore.Trick.Token

/-!
# Scanning position by position

`Lexeme.scan` takes a lexeme whole and goes on behind it, so what it does at a position depends on
where it came from. Here that dependence is removed: no lexeme begins within another, so the scan
finds at each position exactly the lexeme that begins there.

Headlines:
* `Lexeme.scan_cons`: the scan of a text is the lexeme at its start, if there is one, and the scan
  of all but its first character.
* `Lexeme.scan_eq_filterMap`: the scan is the lexemes that begin at each position, in order.
* `Lexeme.scan_append`: a character that is neither a digit nor a modifier letter separates what
  stands before it from itself.
-/

namespace TrickScore

/-! ## Letters -/

/-- **The action letters** are these five. -/
theorem isActionSymbol_iff {c : Char} :
    isActionSymbol c = true ↔ c ∈ ['L', 'H', 'R', 'S', 'T'] :=
  Alphabet.isSome_ofSymbol?_iff

/-- **The modifier letters** are these five. -/
theorem isModifierSymbol_iff {c : Char} :
    isModifierSymbol c = true ↔ c ∈ ['A', 'B', 'C', 'D', 'E'] :=
  Alphabet.isSome_ofSymbol?_iff

namespace Lexeme

/-- A character that may stand in a lexeme behind its action letter. -/
def isInner (c : Char) : Bool :=
  c.isDigit || isModifierSymbol c

/-- An action letter stands in front of a lexeme only. -/
theorem isInner_of_isActionSymbol {c : Char} (h : isActionSymbol c = true) : isInner c = false := by
  rw [isActionSymbol_iff] at h
  fin_cases h <;> decide

/-- Behind its action letter a lexeme holds no other. -/
theorem isActionSymbol_of_isInner {c : Char} (h : isInner c = true) : isActionSymbol c = false := by
  cases ha : isActionSymbol c with
  | false => rfl
  | true => rw [isInner_of_isActionSymbol ha] at h; exact absurd h Bool.false_ne_true

theorem WellFormed.isInner_of_mem {lexeme : Lexeme} (h : lexeme.WellFormed) {c : Char}
    (hc : c ∈ lexeme.digits ++ [lexeme.modifier]) : isInner c = true := by
  rcases List.mem_append.mp hc with hc | hc
  · simp [isInner, h.digits c hc]
  · rw [List.mem_singleton.mp hc]
    simp [isInner, h.modifier]

/-! ## The lexeme at the start of a text -/

/-- The lexeme with which the characters begin. -/
def first? (cs : List Char) : Option Lexeme :=
  (read? cs).map Prod.fst

theorem first?_eq_some_iff {cs : List Char} {lexeme : Lexeme} :
    first? cs = some lexeme ↔ lexeme.WellFormed ∧ ∃ rest, cs = lexeme.text ++ rest := by
  unfold first?
  rw [Option.map_eq_some_iff]
  constructor
  · rintro ⟨⟨_, rest⟩, h, rfl⟩
    obtain ⟨hw, hcs⟩ := read?_eq_some_iff.mp h
    exact ⟨hw, rest, hcs⟩
  · rintro ⟨hw, rest, hcs⟩
    exact ⟨(lexeme, rest), read?_eq_some_iff.mpr ⟨hw, hcs⟩, rfl⟩

/-- No lexeme begins with a character that is not an action letter. -/
theorem first?_cons_of_not_action {c : Char} (h : isActionSymbol c = false) (cs : List Char) :
    first? (c :: cs) = none := by
  rw [Option.eq_none_iff_forall_ne_some]
  intro lexeme hl
  obtain ⟨hw, rest, hcs⟩ := first?_eq_some_iff.mp hl
  obtain ⟨rfl, -⟩ := List.cons.inj hcs
  rw [hw.action] at h
  exact absurd h.symm Bool.false_ne_true

/-- **What cannot stand within a lexeme does not change the lexeme before it.** -/
theorem first?_append {cs more : List Char} (hne : cs ≠ [])
    (hmore : ∀ c ∈ more.head?, isInner c = false) : first? (cs ++ more) = first? cs := by
  ext lexeme
  rw [first?_eq_some_iff, first?_eq_some_iff]
  refine and_congr_right fun hw => ⟨?_, ?_⟩
  · rintro ⟨rest, h⟩
    rcases List.append_eq_append_iff.mp h with ⟨crossed, htext, hmore'⟩ | ⟨crossed, hcs, -⟩
    · -- The lexeme would end in `more`: then `more` begins within it.
      cases crossed with
      | nil => exact ⟨[], by simpa using htext.symm⟩
      | cons c crossed =>
        cases cs with
        | nil => exact absurd rfl hne
        | cons a cs =>
          have hinner : lexeme.digits ++ [lexeme.modifier] = cs ++ c :: crossed :=
            (List.cons.inj htext).2
          have hc : isInner c = true := hw.isInner_of_mem (by rw [hinner]; simp)
          rw [hmore c (by rw [hmore']; rfl)] at hc
          exact absurd hc Bool.false_ne_true
    · exact ⟨crossed, hcs⟩
  · rintro ⟨rest, rfl⟩
    exact ⟨rest ++ more, List.append_assoc _ _ _⟩

/-! ## The scan -/

theorem scan_nil : scan [] = [] := by
  rw [scan]

/-- Where a lexeme begins, it is taken and the scan goes on behind it. -/
theorem scan_of_read? {c : Char} {cs rest : List Char} {lexeme : Lexeme}
    (h : read? (c :: cs) = some (lexeme, rest)) : scan (c :: cs) = lexeme :: scan rest := by
  rw [scan]
  split
  · rename_i lexeme' rest' h'
    rw [h] at h'
    cases h'
    rfl
  · rename_i h'
    rw [h] at h'
    cases h'

/-- Where none begins, one character is skipped. -/
theorem scan_of_read?_eq_none {c : Char} {cs : List Char} (h : read? (c :: cs) = none) :
    scan (c :: cs) = scan cs := by
  rw [scan]
  split
  · rename_i lexeme' rest' h'
    rw [h] at h'
    cases h'
  · rfl

/-- Characters of which none is an action letter are skipped. -/
theorem scan_append_of_not_action {skipped : List Char}
    (h : ∀ c ∈ skipped, isActionSymbol c = false) (rest : List Char) :
    scan (skipped ++ rest) = scan rest := by
  induction skipped with
  | nil => rfl
  | cons c skipped ih =>
    have hnone := first?_cons_of_not_action (h c List.mem_cons_self) (skipped ++ rest)
    rw [List.cons_append, scan_of_read?_eq_none (Option.map_eq_none_iff.mp hnone)]
    exact ih fun b hb => h b (List.mem_cons_of_mem c hb)

/-- **No lexeme begins within another**, so the scan may start anew at every character. -/
theorem scan_cons (c : Char) (cs : List Char) :
    scan (c :: cs) = (first? (c :: cs)).toList ++ scan cs := by
  cases h : read? (c :: cs) with
  | none =>
    rw [scan_of_read?_eq_none h, first?, h]
    rfl
  | some taken =>
    obtain ⟨lexeme, rest⟩ := taken
    obtain ⟨hw, hcs⟩ := read?_eq_some_iff.mp h
    have hbehind : cs = lexeme.digits ++ [lexeme.modifier] ++ rest := (List.cons.inj hcs).2
    have hskip := scan_append_of_not_action
      (fun b hb => isActionSymbol_of_isInner (hw.isInner_of_mem hb)) rest
    rw [scan_of_read? h, first?, h, hbehind, hskip]
    rfl

/-- **The scan finds at each position the lexeme that begins there**, from the left. -/
theorem scan_eq_filterMap (cs : List Char) :
    scan cs = (List.range cs.length).filterMap fun i => first? (cs.drop i) := by
  induction cs with
  | nil => rw [scan_nil]; rfl
  | cons c cs ih =>
    rw [scan_cons, List.length_cons, List.range_succ_eq_map, List.filterMap_cons, List.drop_zero,
      List.filterMap_map, ih]
    cases first? (c :: cs) <;> rfl

/-- **A character that cannot stand within a lexeme separates what is before it.** -/
theorem scan_append {more : List Char} (hmore : ∀ c ∈ more.head?, isInner c = false)
    (cs : List Char) : scan (cs ++ more) = scan cs ++ scan more := by
  induction cs with
  | nil => rw [scan_nil]; rfl
  | cons c cs ih =>
    have hfirst := first?_append (List.cons_ne_nil c cs) hmore
    rw [List.cons_append, scan_cons, ih, ← List.cons_append, hfirst, scan_cons c cs,
      List.append_assoc]

/-- A lexeme in front of a text is found before the lexemes of the text. -/
theorem scan_text_append {lexeme : Lexeme} (h : lexeme.WellFormed) (rest : List Char) :
    scan (lexeme.text ++ rest) = lexeme :: scan rest :=
  scan_of_read? (read?_text_append h rest)

/-- Every lexeme that the scan finds is one of the grammar. -/
theorem wellFormed_of_mem_scan {cs : List Char} {lexeme : Lexeme} (h : lexeme ∈ scan cs) :
    lexeme.WellFormed := by
  rw [scan_eq_filterMap] at h
  obtain ⟨i, -, hi⟩ := List.mem_filterMap.mp h
  exact (first?_eq_some_iff.mp hi).1

end Lexeme

end TrickScore
